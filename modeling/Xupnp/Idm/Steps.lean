import Mathlib.Data.List.Sort
import Xupnp.Library.Run
import Xupnp.Idm.Model

/-!
# What one callback of the IDM client does

`callbackStep_cases` says everything a callback can do to the list and the
reports: nothing, list the device of the innermost call and report it, or take
one out and report that. Both results about runs rest on it.
-/

namespace Xupnp.Idm

open Xupnp.Library Xupnp.XcalDevice

/-- The serial numbers listed, without the white space around them. -/
def keys (s : IdmState) : List CStr := s.xdevlist.map GwyDeviceData.key

/-- The notice is an answer to `GetAccountId` that lets the device of the
innermost call in. -/
def Admits (s : IdmState) (n : Notice) : Prop :=
  ∃ c cs temp, s.calls = c :: cs ∧ c.request = .getAccountId ∧
    n = .answer (some (some temp)) ∧ validAccount temp = true ∧
    s.accountId.strip = temp

/-- What a callback does to the list and the reports. -/
inductive Change (s : IdmState) (n : Notice) (s' : IdmState) : Prop where
  | kept (hno : ¬ Admits s n) (hkeys : keys s' = keys s)
      (hreports : s'.reports = s.reports)
  | admitted (c : Call) (cs : List Call) (hcalls : s.calls = c :: cs)
      (hyes : Admits s n)
      (hkeys : keys s' =
        (keys s).orderedInsert (fun a b => a ≤ b) c.gwydata.key)
      (hreports : s'.reports = s.reports ++ [⟨c.gwydata, c.di, true, true⟩])
  | removed (d : GwyDeviceData) (di : DeviceInfo) (hno : ¬ Admits s n)
      (hmem : d.key ∈ keys s) (hkeys : keys s' = (keys s).erase d.key)
      (hreports : s'.reports = s.reports ++ [⟨d, di, false, false⟩])

/-! ## The list functions -/

section ListFunctions

variable {sno : Option CStr} {l : List GwyDeviceData}

theorem hasSno_iff {d : GwyDeviceData} :
    hasSno sno d = true ↔ sno.map CStr.strip = some d.key := by
  simp [hasSno]

@[simp] theorem hasSno_strip (d : GwyDeviceData) :
    hasSno sno d.strip = hasSno sno d := by
  rw [hasSno, GwyDeviceData.key_strip, hasSno]

theorem listFindSno_keys (sno : Option CStr) (l : List GwyDeviceData) :
    (listFindSno sno l).1.map GwyDeviceData.key =
      l.map GwyDeviceData.key := by
  induction l with
  | nil => rfl
  | cons d ds ih =>
      rw [listFindSno]
      split
      · simp
      · simp [ih]

/-- The search finds a record of the serial number if there is one. -/
theorem listFindSno_some (sno : Option CStr) (l : List GwyDeviceData)
    {d : GwyDeviceData} (h : (listFindSno sno l).2 = some d) :
    sno.map CStr.strip = some d.key ∧ d.key ∈ l.map GwyDeviceData.key := by
  induction l with
  | nil => cases h
  | cons e es ih =>
      rw [listFindSno] at h
      split at h
      · rename_i he
        obtain rfl := Option.some.inj h
        rw [GwyDeviceData.key_strip]
        exact ⟨hasSno_iff.mp he, List.mem_cons_self⟩
      · obtain ⟨hkey, hmem⟩ := ih h
        exact ⟨hkey, List.mem_cons_of_mem _ hmem⟩

theorem listFindSno_none (sno : Option CStr) (l : List GwyDeviceData)
    (h : (listFindSno sno l).2 = none) :
    ∀ k ∈ l.map GwyDeviceData.key, sno.map CStr.strip ≠ some k := by
  induction l with
  | nil => simp
  | cons e es ih =>
      rw [listFindSno] at h
      split at h
      · cases h
      · rename_i he
        intro k hk
        rw [List.map_cons, List.mem_cons] at hk
        rcases hk with rfl | hk
        · exact fun hkey => he (hasSno_iff.mpr hkey)
        · exact ih h k hk

theorem eraseP_keys {k : CStr} (hk : sno.map CStr.strip = some k)
    (l : List GwyDeviceData) :
    (l.eraseP (hasSno sno)).map GwyDeviceData.key =
      (l.map GwyDeviceData.key).erase k := by
  induction l with
  | nil => rfl
  | cons d ds ih =>
      by_cases hd : d.key = k
      · have hhit : hasSno sno d = true := hasSno_iff.mpr (by rw [hk, hd])
        rw [List.eraseP_cons_of_pos hhit, List.map_cons, hd,
          List.erase_cons_head]
      · have hmiss : ¬ hasSno sno d = true := by
          rw [hasSno_iff, hk]
          exact fun h => hd (Option.some.inj h).symm
        rw [List.eraseP_cons_of_neg hmiss, List.map_cons, List.map_cons,
          List.erase_cons_tail (by simpa using hd), ih]

theorem listInsertSorted_keys (d : GwyDeviceData) (l : List GwyDeviceData) :
    (listInsertSorted d l).map GwyDeviceData.key =
      (l.map GwyDeviceData.key).orderedInsert (fun a b => a ≤ b) d.key := by
  induction l generalizing d with
  | nil => rfl
  | cons e es ih =>
      rw [listInsertSorted, List.map_cons, List.orderedInsert_cons]
      split
      · simp
      · simp [ih]

end ListFunctions

/-! ## The callbacks -/

section Callbacks

variable {s s' : IdmState} {n : Notice}

/-- Only an answer admits. -/
theorem not_admits (h : ∀ temp, n ≠ .answer (some (some temp))) :
    ¬ Admits s n := by
  rintro ⟨c, cs, temp, -, -, rfl, -⟩
  exact h temp rfl

/-- What no callback but the server's changes: whether a main loop runs, and
the account id without the white space around it. -/
def KeepsAccount (s s' : IdmState) : Prop :=
  s'.running = s.running ∧ s'.accountId.strip = s.accountId.strip

theorem available_change (p : DeviceProxy) :
    keys (deviceProxyAvailableCbBgw p s) = keys s ∧
      (deviceProxyAvailableCbBgw p s).reports = s.reports ∧
      KeepsAccount s (deviceProxyAvailableCbBgw p s) := by
  have hkeys := listFindSno_keys p.serialNumber s.xdevlist
  unfold deviceProxyAvailableCbBgw
  cases hf : listFindSno p.serialNumber s.xdevlist with
  | mk ds found =>
      rw [hf] at hkeys
      cases found with
      | some d => exact ⟨hkeys, rfl, rfl, rfl⟩
      | none =>
          dsimp only
          split
          · exact ⟨hkeys, rfl, rfl, rfl⟩
          · exact ⟨hkeys, rfl, rfl, rfl⟩

/-- What comes of an answer to `GetAccountId`. -/
theorem accountAnswered_change (c : Call) (temp : CStr) :
    KeepsAccount s (accountAnswered c temp s) ∧
      (validAccount temp = true ∧ s.accountId.strip = temp →
        keys (accountAnswered c temp s) =
            (keys s).orderedInsert (fun a b => a ≤ b) c.gwydata.key ∧
          (accountAnswered c temp s).reports =
            s.reports ++ [⟨c.gwydata, c.di, true, true⟩]) ∧
      (¬ (validAccount temp = true ∧ s.accountId.strip = temp) →
        keys (accountAnswered c temp s) = keys s ∧
          (accountAnswered c temp s).reports = s.reports) := by
  unfold accountAnswered
  by_cases hvalid : validAccount temp = true
  · rw [if_pos hvalid]
    dsimp only
    by_cases hown : s.accountId.strip = temp
    · rw [if_pos hown]
      refine ⟨⟨rfl, CStr.strip_strip _⟩, fun _ => ⟨?_, rfl⟩, fun h => ?_⟩
      · exact listInsertSorted_keys _ _
      · exact absurd ⟨hvalid, hown⟩ h
    · rw [if_neg hown]
      refine ⟨⟨rfl, CStr.strip_strip _⟩, fun h => ?_, fun _ => ⟨rfl, rfl⟩⟩
      exact absurd h.2 hown
  · rw [if_neg hvalid]
    exact ⟨⟨rfl, rfl⟩, fun h => absurd h.1 hvalid, fun _ => ⟨rfl, rfl⟩⟩

theorem accountAnswered_calls (c : Call) (temp : CStr) :
    (accountAnswered c temp s).calls = s.calls.tail := by
  unfold accountAnswered
  split
  · dsimp only
    split <;> rfl
  · rfl

/-- An answer that admits ends the innermost call. -/
theorem callbackStep_of_admits (h : Admits s n) :
    ∃ s', callbackStep s n = some s' ∧ s'.calls = s.calls.tail := by
  obtain ⟨c, cs, temp, hcalls, hreq, rfl, -, -⟩ := h
  refine ⟨accountAnswered c temp s, ?_, ?_⟩
  · show resume _ s = _
    rw [resume, hcalls]
    dsimp only
    rw [hreq]
  · exact accountAnswered_calls c temp

/-- An answer to a request before the last one: the innermost call goes on. -/
theorem resume_early {c : Call} {cs : List Call} (hcalls : s.calls = c :: cs)
    (hreq : c.request ≠ .getAccountId) (result : Option (Option CStr)) :
    ∃ f next, resume result s =
      some { s with calls := c.fill f result next :: cs } := by
  rw [resume, hcalls]
  dsimp only
  cases hc : c.request with
  | getClientIP => exact ⟨_, _, rfl⟩
  | getBcastMacAddress => exact ⟨_, _, rfl⟩
  | getGatewayIPv6 => exact ⟨_, _, rfl⟩
  | getAccountId => exact absurd hc hreq

theorem answer_change {result : Option (Option CStr)}
    (h : resume result s = some s') :
    Change s (.answer result) s' ∧ KeepsAccount s s' := by
  cases hcalls : s.calls with
  | nil =>
      rw [resume, hcalls] at h
      cases h
  | cons c cs =>
      by_cases hreq : c.request = .getAccountId
      · rw [resume, hcalls] at h
        dsimp only at h
        rw [hreq] at h
        rcases result with _ | _ | temp
        · obtain rfl := Option.some.inj h
          exact ⟨.kept (not_admits (by simp)) rfl rfl, rfl, rfl⟩
        · cases h
        · obtain rfl := Option.some.inj h
          obtain ⟨haccount, hin, hout⟩ := accountAnswered_change (s := s) c temp
          refine ⟨?_, haccount⟩
          by_cases hyes : validAccount temp = true ∧ s.accountId.strip = temp
          · exact .admitted c cs hcalls
              ⟨c, cs, temp, hcalls, hreq, rfl, hyes.1, hyes.2⟩
              (hin hyes).1 (hin hyes).2
          · refine .kept ?_ (hout hyes).1 (hout hyes).2
            rintro ⟨c', cs', temp', -, -, heq, hvalid, hown⟩
            obtain rfl : temp = temp' := by simpa using heq
            exact hyes ⟨hvalid, hown⟩
      · -- Only an answer to the last request may let a device in.
        have hno : ¬ Admits s (.answer result) := by
          rintro ⟨c', cs', temp, hcalls', hlast, -⟩
          rw [hcalls] at hcalls'
          obtain ⟨rfl, -⟩ := List.cons.inj hcalls'
          exact hreq hlast
        obtain ⟨f, next, hgo⟩ := resume_early hcalls hreq result
        obtain rfl := Option.some.inj (hgo.symm.trans h)
        exact ⟨.kept hno rfl rfl, rfl, rfl⟩

theorem unavailable_change {sno : Option CStr} {di : DeviceInfo}
    (h : deviceProxyUnavailableCbBgw sno di s = some s') :
    Change s (.unavailable sno di) s' ∧ KeepsAccount s s' := by
  have hno : ¬ Admits s (.unavailable sno di) := not_admits (by simp)
  have hkeys := listFindSno_keys sno s.xdevlist
  unfold deviceProxyUnavailableCbBgw at h
  dsimp only at h
  split at h
  · obtain rfl := Option.some.inj h
    exact ⟨.kept hno rfl rfl, rfl, rfl⟩
  · unfold deleteGwyitem at h
    dsimp only at h
    cases hf : listFindSno sno s.xdevlist with
    | mk ds found =>
        rw [hf] at h hkeys
        cases found with
        | none =>
            obtain rfl := Option.some.inj h
            exact ⟨.kept hno hkeys rfl, rfl, rfl⟩
        | some d =>
            obtain ⟨hkey, hmem⟩ :=
              listFindSno_some sno s.xdevlist (congrArg Prod.snd hf)
            obtain ⟨di', -, rfl⟩ := Option.map_eq_some_iff.mp h
            refine ⟨.removed d di' hno hmem ?_ rfl, rfl, rfl⟩
            show (ds.eraseP (hasSno sno)).map GwyDeviceData.key = _
            rw [eraseP_keys hkey, hkeys]
            rfl

/-- **One callback.** -/
theorem callbackStep_cases (h : callbackStep s n = some s') :
    Change s n s' := by
  cases n with
  | available p =>
      have hno : ¬ Admits s (.available p) := not_admits (by simp)
      cases p with
      | none =>
          obtain rfl := Option.some.inj h
          exact .kept hno rfl rfl
      | some p =>
          obtain rfl := Option.some.inj h
          obtain ⟨hkeys, hreports, -⟩ := available_change (s := s) p
          exact .kept hno hkeys hreports
  | answer result => exact (answer_change h).1
  | unavailable sno di => exact (unavailable_change h).1
  | getAccountId source =>
      obtain rfl := Option.some.inj h
      exact .kept (not_admits (by simp)) rfl rfl

/-- The account id changes where the local server reads it; a comparison only
strips it. -/
theorem callbackStep_account (h : callbackStep s n = some s') :
    s'.running = s.running ∧
      s'.accountId.strip =
        (match n with
          | .getAccountId source => getAccountId source .empty
          | _ => s.accountId).strip := by
  cases n with
  | available p =>
      cases p with
      | none =>
          obtain rfl := Option.some.inj h
          exact ⟨rfl, rfl⟩
      | some p =>
          obtain rfl := Option.some.inj h
          exact (available_change p).2.2
  | answer result => exact (answer_change h).2
  | unavailable sno di => exact (unavailable_change h).2
  | getAccountId source =>
      obtain rfl := Option.some.inj h
      exact ⟨rfl, rfl⟩

theorem unavailable_same_calls {sno : Option CStr} {di : DeviceInfo}
    (h : deviceProxyUnavailableCbBgw sno di s = some s') :
    s'.calls = s.calls := by
  unfold deviceProxyUnavailableCbBgw at h
  dsimp only at h
  split at h
  · obtain rfl := Option.some.inj h
    rfl
  · unfold deleteGwyitem at h
    split at h
    · obtain ⟨di', -, rfl⟩ := Option.map_eq_some_iff.mp h
      rfl
    · obtain rfl := Option.some.inj h
      rfl

end Callbacks

/-! ## Behind the main loop -/

section Inactive

variable {s s' s'' : IdmState} {gone : List (Option CStr × DeviceInfo)}

/-- What the devices that are reported unavailable at the end change. -/
structure Withdrawn (s s' : IdmState) : Prop where
  sublist : (keys s').Sublist (keys s)
  calls : s'.calls = s.calls
  account : KeepsAccount s s'
  reports : ∃ rs, (∀ r ∈ rs, r.added = false) ∧ s'.reports = s.reports ++ rs

theorem Withdrawn.refl (s : IdmState) : Withdrawn s s :=
  ⟨.refl _, rfl, ⟨rfl, rfl⟩, [], by simp, by simp⟩

theorem Withdrawn.trans (h : Withdrawn s s') (h' : Withdrawn s' s'') :
    Withdrawn s s'' := by
  obtain ⟨rs, hrs, hr⟩ := h.reports
  obtain ⟨rs', hrs', hr'⟩ := h'.reports
  refine ⟨h'.sublist.trans h.sublist, h'.calls.trans h.calls,
    ⟨h'.account.1.trans h.account.1, h'.account.2.trans h.account.2⟩,
    rs ++ rs', ?_, ?_⟩
  · intro r hr
    rcases List.mem_append.mp hr with hr | hr
    · exact hrs r hr
    · exact hrs' r hr
  · rw [hr', hr, List.append_assoc]

theorem withdrawn_unavailable {sno : Option CStr} {di : DeviceInfo}
    (h : deviceProxyUnavailableCbBgw sno di s = some s') : Withdrawn s s' := by
  obtain ⟨hchange, haccount⟩ := unavailable_change h
  have hcalls := unavailable_same_calls h
  cases hchange with
  | kept hno hkeys hreports =>
      exact ⟨hkeys ▸ List.Sublist.refl _, hcalls, haccount, [], by simp,
        by simp [hreports]⟩
  | admitted c cs hcs hyes hkeys hreports =>
      exact absurd hyes (not_admits (by simp))
  | removed d di' hno hmem hkeys hreports =>
      refine ⟨?_, hcalls, haccount, _, ?_, hreports⟩
      · rw [hkeys]
        exact List.erase_sublist
      · simp

theorem setInactive_withdrawn (h : setInactive gone s = some s') :
    Withdrawn s s' :=
  runFrom_invariant' (I := Withdrawn s)
    (fun _ _ _ hs hstep => hs.trans (withdrawn_unavailable hstep))
    (.refl s) h

/-- The serial numbers that are taken off the list. The client's own is not. -/
def withdrawnKeys (own : CStr) (gone : List (Option CStr × DeviceInfo)) :
    List CStr :=
  gone.filterMap fun (sno, _) =>
    if sno = some own.strip then none else sno.map CStr.strip

theorem withdrawnKeys_own (own : CStr) (di : DeviceInfo) :
    withdrawnKeys own [(some own.strip, di)] = [] := by
  simp [withdrawnKeys]

theorem withdrawnKeys_other {own : CStr} {sno : Option CStr}
    (h : sno ≠ some own.strip) (di : DeviceInfo) :
    withdrawnKeys own [(sno, di)] = (sno.map CStr.strip).toList := by
  cases sno with
  | none => simp [withdrawnKeys]
  | some n =>
      have hne : n ≠ own.strip := by simpa using h
      simp [withdrawnKeys, hne]

theorem unavailable_keys {sno : Option CStr} {di : DeviceInfo}
    (h : deviceProxyUnavailableCbBgw sno di s = some s') :
    keys s' = (keys s).diff (withdrawnKeys s.ownSerialNo [(sno, di)]) ∧
      s'.ownSerialNo.strip = s.ownSerialNo.strip := by
  have hkeys := listFindSno_keys sno s.xdevlist
  have hnone := listFindSno_none sno s.xdevlist
  unfold deviceProxyUnavailableCbBgw at h
  dsimp only at h
  split at h
  · next hown =>
      obtain rfl := Option.some.inj h
      refine ⟨?_, CStr.strip_strip _⟩
      rw [hown, withdrawnKeys_own]
      rfl
  · next hown =>
      unfold deleteGwyitem at h
      dsimp only at h
      cases hf : listFindSno sno s.xdevlist with
      | mk ds found =>
          rw [hf] at h hkeys hnone
          cases found with
          | none =>
              obtain rfl := Option.some.inj h
              refine ⟨?_, CStr.strip_strip _⟩
              have hmiss : ∀ k, sno.map CStr.strip = some k → k ∉ keys s :=
                fun k hk hmem => hnone rfl k hmem hk
              show ds.map GwyDeviceData.key = _
              rw [hkeys, withdrawnKeys_other hown]
              cases sno with
              | none => rfl
              | some n =>
                  rw [Option.map_some, Option.toList_some, List.diff_cons,
                    List.diff_nil, List.erase_of_not_mem (hmiss n.strip rfl)]
                  rfl
          | some d =>
              obtain ⟨hkey, -⟩ :=
                listFindSno_some sno s.xdevlist (congrArg Prod.snd hf)
              obtain ⟨di', -, rfl⟩ := Option.map_eq_some_iff.mp h
              refine ⟨?_, CStr.strip_strip _⟩
              show (ds.eraseP _).map GwyDeviceData.key = _
              rw [eraseP_keys hkey, hkeys, withdrawnKeys_other hown, hkey,
                Option.toList_some, List.diff_cons, List.diff_nil]
              rfl

/-- **What is left.** Each report takes the device of its serial number off the
list. -/
theorem setInactive_keys (h : setInactive gone s = some s') :
    keys s' = (keys s).diff (withdrawnKeys s.ownSerialNo gone) := by
  induction gone generalizing s with
  | nil =>
      obtain rfl := Option.some.inj h
      rfl
  | cons g gone ih =>
      obtain ⟨sno, di⟩ := g
      rw [setInactive, runFrom_cons] at h
      obtain ⟨t, ht, h⟩ := Option.bind_eq_some_iff.mp h
      obtain ⟨hkeys, hown⟩ := unavailable_keys ht
      have hsplit : withdrawnKeys s.ownSerialNo ((sno, di) :: gone) =
          withdrawnKeys s.ownSerialNo [(sno, di)] ++
            withdrawnKeys s.ownSerialNo gone :=
        @List.filterMap_append _ _ [(sno, di)] gone _
      have hsame : withdrawnKeys t.ownSerialNo gone =
          withdrawnKeys s.ownSerialNo gone := by
        rw [withdrawnKeys, withdrawnKeys, hown]
      rw [ih h, hkeys, hsame, hsplit, List.diff_append]

end Inactive

/-- A device of this serial number, for the examples of later modules. -/
def gatewayProxy (sno : String) : DeviceProxy :=
  ⟨some (.lit sno), some (.lit "uuid:7c1fc9a0")⟩

end Xupnp.Idm
