import Xupnp.Idm.Steps

/-!
# Who is let in by the IDM client

A device is listed when what it answers to `GetAccountId` consists of digits
and is the account id the client holds. What the client holds is the empty
string while it cannot read its own id, and otherwise the first 29 characters
of it, without the white space around them: `admission_run_iff` says when the
comparison with it is one with the client's own id.
-/

namespace Xupnp.Idm

open Xupnp.Library Xupnp.XcalDevice

/-- The last read of the account id: the id, if it could be read. -/
def noteOwn (_ : IdmState) (e : Event) (_ : IdmState) (own : Option CStr) :
    Option CStr :=
  match e with
  | .start _ reads =>
      (awaitAccountId .empty reads).bind fun (_, source) => source.provisioned
  | .notice (.getAccountId source) => source.provisioned
  | _ => own

/-- One event, together with the last read. -/
def ownStep : IdmState × Option CStr → Event → Option (IdmState × Option CStr) :=
  withHistory step noteOwn

/-- The step lists a device, or reports one as added. -/
def Enters (s s' : IdmState) : Prop :=
  s.xdevlist.length < s'.xdevlist.length ∨
    ∃ r, r.added = true ∧ s'.reports = s.reports ++ [r]

/-- The device of the innermost call has answered with the client's own account
id, a decimal string that is not empty. -/
def AnsweredOwnId (own : Option CStr) (s : IdmState) (e : Event) : Prop :=
  ∃ c cs temp, s.calls = c :: cs ∧ c.request = .getAccountId ∧
    e = .notice (.answer (some (some temp))) ∧ temp ≠ .empty ∧
    (∀ b ∈ temp.bytes, 0x30 ≤ b ∧ b ≤ 0x39) ∧ own = some temp

/-- What is left of the own id in the comparison. -/
def comparedId (own : Option CStr) : CStr :=
  ((own.getD .empty).takeBytes 29).strip

/-- An answer to `GetAccountId` is not empty unless the own id was read and
something is left of it; and where the answer is what is left of it, nothing of
the own id is missing. -/
def OwnIdCompares (own : Option CStr) (s : IdmState) (e : Event) : Prop :=
  ∀ c cs temp, s.calls = c :: cs → c.request = .getAccountId →
    e = .notice (.answer (some (some temp))) →
      (temp = .empty → comparedId own ≠ .empty) ∧
      (temp ≠ .empty → validAccount temp = true → temp = comparedId own →
        ∀ id ∈ own, comparedId own = id)

/-! ## The account id along a run -/

section Account

theorem getAccountId_eq (source : AccountSource) (outValue : CStr) :
    getAccountId source outValue =
      (source.provisioned.map (CStr.takeBytes 29)).getD outValue := by
  rw [getAccountId, clientGetAccountId_eq]

/-- The loop at the start ends with an id it has just read, or with none. -/
theorem awaitAccountId_eq {outValue accountId : CStr}
    {reads : List AccountSource} {source : AccountSource}
    (hout : outValue = .empty ∨ isUnknown outValue = true)
    (h : awaitAccountId outValue reads = some (accountId, source)) :
    accountId = (source.provisioned.getD .empty).takeBytes 29 := by
  induction reads generalizing outValue with
  | nil => cases h
  | cons r reads ih =>
      rw [awaitAccountId] at h
      split at h
      · rename_i hunknown
        exact ih (Or.inr hunknown) h
      · rename_i hknown
        obtain ⟨rfl, rfl⟩ := Prod.mk.inj (Option.some.inj h)
        rw [getAccountId_eq] at hknown ⊢
        cases hp : r.provisioned with
        | some id => rfl
        | none =>
            -- A read that fails leaves `unknown`, and the loop goes on.
            rw [hp] at hknown
            rcases hout with rfl | hunknown
            · exact takeBytes_empty.symm
            · exact absurd hunknown hknown

/-- What the client holds is the id of its last read, as far as it compares;
and no call waits while no main loop runs. -/
structure Coherent (x : IdmState × Option CStr) : Prop where
  account : x.1.accountId.strip = comparedId x.2
  idle : x.1.running = false → x.1.calls = []

theorem coherent_step {x y : IdmState × Option CStr} {e : Event}
    (hx : Coherent x) (h : ownStep x e = some y) : Coherent y := by
  obtain ⟨s, own⟩ := x
  obtain ⟨s', own'⟩ := y
  obtain ⟨hstep, rfl⟩ : step s e = some s' ∧ own' = noteOwn s e s' own :=
    withHistory_eq_some.mp h
  cases e with
  | start serialNum reads =>
      rw [step] at hstep
      split at hstep
      · cases hstep
      · obtain ⟨⟨accountId, source⟩, hr, rfl⟩ :=
          Option.map_eq_some_iff.mp hstep
        refine ⟨?_, fun hrun => by cases hrun⟩
        show accountId.strip = comparedId ((awaitAccountId .empty reads).bind
          fun (_, source) => source.provisioned)
        rw [hr, awaitAccountId_eq (Or.inl rfl) hr]
        rfl
  | notice n =>
      rw [step] at hstep
      split at hstep
      · rename_i hrun
        obtain ⟨hsame, haccount⟩ := callbackStep_account hstep
        refine ⟨haccount.trans ?_, fun hstop => ?_⟩
        · cases n with
          | getAccountId source =>
              show (getAccountId source .empty).strip =
                comparedId source.provisioned
              rw [getAccountId_eq, comparedId]
              cases source.provisioned with
              | none => rw [Option.getD_none, takeBytes_empty]; rfl
              | some id => rfl
          | available p => exact hx.account
          | answer result => exact hx.account
          | unavailable sno di => exact hx.account
        · have hrun' : s'.running = false := hstop
          rw [hsame, hrun] at hrun'
          cases hrun'
      · cases hstep
  | stop gone =>
      rw [step] at hstep
      split at hstep
      · rename_i hstop
        obtain ⟨t, ht, rfl⟩ := Option.map_eq_some_iff.mp hstep
        have hgone := setInactive_withdrawn ht
        refine ⟨hgone.account.2.trans hx.account, fun _ => ?_⟩
        exact hgone.calls.trans (List.isEmpty_iff.mp hstop.2)
      · cases hstep

end Account

/-! ## Admission -/

section Admission

variable {s s' : IdmState} {e : Event} {own : Option CStr}

/-- Only an answer that admits lets a device in. -/
theorem enters_iff (h : step s e = some s') :
    Enters s s' ↔ ∃ n, e = .notice n ∧ Admits s n := by
  have hout : s'.xdevlist.length ≤ s.xdevlist.length →
      s'.reports = s.reports → ¬ Enters s s' := by
    rintro hlen hreports (hlong | ⟨r, -, hr⟩)
    · omega
    · have := congrArg List.length (hreports.symm.trans hr)
      simp at this
  have hkeys : ∀ t : IdmState, (keys t).length = t.xdevlist.length :=
    fun t => List.length_map _
  cases e with
  | start serialNum reads =>
      refine iff_of_false ?_ (by rintro ⟨n, hn, -⟩; cases hn)
      rw [step] at h
      split at h
      · cases h
      · obtain ⟨r, -, rfl⟩ := Option.map_eq_some_iff.mp h
        exact hout le_rfl rfl
  | stop gone =>
      refine iff_of_false ?_ (by rintro ⟨n, hn, -⟩; cases hn)
      rw [step] at h
      split at h
      · obtain ⟨t, ht, rfl⟩ := Option.map_eq_some_iff.mp h
        have hgone := setInactive_withdrawn ht
        obtain ⟨rs, hrs, hreports⟩ := hgone.reports
        rintro (hlong | ⟨r, hadded, hr⟩)
        · have hlen := hgone.sublist.length_le
          rw [hkeys, hkeys] at hlen
          change s.xdevlist.length < t.xdevlist.tail.length at hlong
          rw [List.length_tail] at hlong
          omega
        · have hrs' : rs = [r] :=
            List.append_cancel_left (hreports.symm.trans hr)
          rw [hrs r (by simp [hrs'])] at hadded
          cases hadded
      · cases h
  | notice n =>
      have hnotice : ¬ Admits s n →
          ¬ ∃ n', Event.notice n = .notice n' ∧ Admits s n' := by
        rintro hno ⟨_, hn, hyes⟩
        obtain rfl := Event.notice.inj hn
        exact hno hyes
      rw [step] at h
      split at h
      · cases callbackStep_cases h with
        | kept hno hsame hreports =>
            refine iff_of_false (hout ?_ hreports) (hnotice hno)
            rw [← hkeys, ← hkeys, hsame]
        | admitted c cs hcalls hyes hsame hreports =>
            exact iff_of_true (Or.inr ⟨_, rfl, hreports⟩) ⟨n, rfl, hyes⟩
        | removed d di hno hmem hsame hreports =>
            refine iff_of_false ?_ (hnotice hno)
            rintro (hlong | ⟨r, hadded, hr⟩)
            · rw [← hkeys, ← hkeys, hsame,
                List.length_erase_of_mem hmem] at hlong
              omega
            · rw [hreports] at hr
              obtain ⟨rfl⟩ := List.append_cancel_left hr
              cases hadded
      · cases h

/-- An answer that admits is taken while a main loop runs. -/
theorem step_of_admits {n : Notice} (hrun : s.running = true)
    (h : Admits s n) : ∃ s', step s (.notice n) = some s' := by
  obtain ⟨s', hs', -⟩ := callbackStep_of_admits h
  refine ⟨s', ?_⟩
  rw [step, if_pos hrun, hs']

theorem validAccount_iff {temp : CStr} :
    validAccount temp = true ↔ ∀ b ∈ temp.bytes, 0x30 ≤ b ∧ b ≤ 0x39 := by
  simp [validAccount]

/-- **One event.** It lets in only a device that has answered with the own
account id, exactly if the own id compares. -/
theorem admission_step_iff (hx : Coherent (s, own)) :
    (∀ s', step s e = some s' → Enters s s' → AnsweredOwnId own s e) ↔
      OwnIdCompares own s e := by
  have haccount : s.accountId.strip = comparedId own := hx.account
  constructor
  · intro h c cs temp hcalls hreq he
    have hrun : s.running = true := by
      by_contra hno
      have hidle := hx.idle (by simpa using hno)
      rw [show s.calls = c :: cs from hcalls] at hidle
      cases hidle
    -- An answer that is what is left of the own id admits.
    have hin : validAccount temp = true → temp = comparedId own →
        temp ≠ .empty ∧ own = some temp := by
      intro hvalid htemp
      have hadmits : Admits s (.answer (some (some temp))) :=
        ⟨c, cs, temp, hcalls, hreq, rfl, hvalid, by rw [haccount, htemp]⟩
      obtain ⟨s', hs'⟩ := step_of_admits hrun hadmits
      subst he
      obtain ⟨_, _, temp', -, -, heq, hne, -, hown⟩ :=
        h s' hs' ((enters_iff hs').mpr ⟨_, rfl, hadmits⟩)
      obtain rfl : temp = temp' := by simpa using heq
      exact ⟨hne, hown⟩
    constructor
    · intro hempty hblank
      have hvalid : validAccount temp = true := by rw [hempty]; rfl
      exact (hin hvalid (hempty.trans hblank.symm)).1 hempty
    · intro hne hvalid htemp id hid
      rw [← htemp]
      obtain ⟨-, hown⟩ := hin hvalid htemp
      exact Option.some.inj (hown.symm.trans hid)
  · intro h s' hs' henters
    obtain ⟨n, rfl, c, cs, temp, hcalls, hreq, rfl, hvalid, hown⟩ :=
      (enters_iff hs').mp henters
    obtain ⟨hempty, hwhole⟩ := h c cs temp hcalls hreq rfl
    have htemp : temp = comparedId own := hown.symm.trans haccount
    have hne : temp ≠ .empty := fun heq => hempty heq (htemp.symm.trans heq)
    refine ⟨c, cs, temp, hcalls, hreq, rfl, hne, validAccount_iff.mp hvalid, ?_⟩
    cases hid : own with
    | none =>
        rw [hid, comparedId, Option.getD_none, takeBytes_empty] at htemp
        exact absurd htemp hne
    | some id => rw [htemp, hwhole hne hvalid htemp id hid]

/-- **Who is let in.** In a run of starts, stops, callbacks and requests to the
local server, every device that is listed or reported as added has answered
with the client's own account id, read successfully, decimal and not empty,
exactly if at every answer to `GetAccountId` the own id compares. -/
theorem admission_run_iff (es : List Event) :
    AllSteps ownStep
        (fun x e => ∀ y, ownStep x e = some y → Enters x.1 y.1 →
          AnsweredOwnId x.2 x.1 e)
        (initState, none) es ↔
      AllSteps ownStep (fun x e => OwnIdCompares x.2 x.1 e)
        (initState, none) es := by
  refine allSteps_congr (I := Coherent) (fun x e y hx h => coherent_step hx h)
    ?_ ⟨rfl, fun _ => rfl⟩
  intro x e hx
  rw [← admission_step_iff hx]
  exact forall_withHistory
    (P := fun s' => Enters x.1 s' → AnsweredOwnId x.2 x.1 e)

/-- A device that comes and answers every request with the same text. -/
def comes (sno text : String) : List Event :=
  .notice (.available (some (gatewayProxy sno))) ::
    List.replicate 4 (.notice (.answer (some (some (.lit text)))))

/-- The own account id cannot be read, and a device answers with the empty
string: it is let in. -/
theorem admission_run_unread :
    ¬ AllSteps ownStep
        (fun x e => ∀ y, ownStep x e = some y → Enters x.1 y.1 →
          AnsweredOwnId x.2 x.1 e)
        (initState, none)
        (.start (.lit "P1") [.rfc none] :: comes "P2" "") := by
  intro h
  obtain ⟨c, cs, temp, -, -, heq, hne, -⟩ :=
    allSteps_iff.mp h (.start (.lit "P1") [.rfc none] ::
      (comes "P2" "").dropLast) _ [] rfl _ rfl _ rfl (Or.inl (by decide))
  obtain rfl : CStr.lit "" = temp := by simpa using heq
  exact hne rfl

end Admission

end Xupnp.Idm
