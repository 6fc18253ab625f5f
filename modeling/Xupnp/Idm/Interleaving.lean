import Xupnp.Library.Alternating
import Xupnp.Idm.Steps

/-!
# Callbacks within callbacks

Between the search for a listed device and its insertion the callback waits
four times, and whatever comes meanwhile is handled. `interleaving_run_iff`
says exactly when the list still holds every serial number once and the
reports of each alternate; `oncePerSerial_of_apart` says that it is enough that
no two callbacks for one serial number are under way at the same time.
-/

namespace Xupnp.Idm

open Xupnp.Library Xupnp.XcalDevice

/-- What has been reported of a serial number: added or removed. -/
def reportsOf (k : CStr) (l : List Report) : List Bool :=
  (l.filter fun r => decide (r.gwydata.key = k)).map Report.added

/-- What is expected of the list and the reports. -/
structure OncePerSerial (s : IdmState) : Prop where
  nodup : (keys s).Nodup
  alternates : ∀ k, Alternates (reportsOf k s.reports)

/-- What holds with it: a serial number is listed if it was reported as added
last. -/
structure Tracks (s : IdmState) : Prop extends OncePerSerial s where
  listed : ∀ k, (reportsOf k s.reports).getLastD false = true ↔ k ∈ keys s

/-- A device that is let in is not listed at that moment. -/
def AdmitsNew (s : IdmState) (n : Notice) : Prop :=
  Admits s n → ∀ c cs, s.calls = c :: cs → c.gwydata.key ∉ keys s

/-- A client that has been started, before the first callback. -/
def startedState (ownSerialNo accountId : CStr) : IdmState :=
  { initState with running := true, ownSerialNo, accountId }

/-! ## One callback -/

section Step

variable {s s' : IdmState} {n : Notice}

theorem reportsOf_append (k : CStr) (l : List Report) (r : Report) :
    reportsOf k (l ++ [r]) =
      if r.gwydata.key = k then reportsOf k l ++ [r.added]
      else reportsOf k l := by
  unfold reportsOf
  rw [List.filter_append, List.map_append]
  split
  · rename_i hk
    simp [hk]
  · rename_i hk
    simp [hk]

/-- Inserting keeps all entries different exactly if the new one is. -/
theorem nodup_insert {k : CStr} {l : List CStr} :
    (l.orderedInsert (fun a b => a ≤ b) k).Nodup ↔ k ∉ l ∧ l.Nodup :=
  (List.perm_orderedInsert _ _ _).nodup_iff.trans List.nodup_cons

theorem tracks_kept (hs : Tracks s) (hkeys : keys s' = keys s)
    (hreports : s'.reports = s.reports) : Tracks s' := by
  refine ⟨⟨?_, ?_⟩, ?_⟩
  · rw [hkeys]
    exact hs.nodup
  · rw [hreports]
    exact hs.alternates
  · rw [hreports, hkeys]
    exact hs.listed

/-- Listing a new serial number and reporting it. -/
theorem tracks_admitted (hs : Tracks s) {r : Report} (hadded : r.added = true)
    (hnew : r.gwydata.key ∉ keys s)
    (hkeys : keys s' =
      (keys s).orderedInsert (fun a b => a ≤ b) r.gwydata.key)
    (hreports : s'.reports = s.reports ++ [r]) : Tracks s' := by
  have hmem : ∀ k, k ∈ keys s' ↔ k = r.gwydata.key ∨ k ∈ keys s := by
    intro k
    rw [hkeys, List.mem_orderedInsert]
  refine ⟨⟨?_, fun k => ?_⟩, fun k => ?_⟩
  · rw [hkeys]
    exact nodup_insert.mpr ⟨hnew, hs.nodup⟩
  · rw [hreports, reportsOf_append]
    split
    · rename_i hk
      subst hk
      refine alternates_concat.mpr ⟨hs.alternates _, ?_⟩
      rw [hadded]
      exact fun h => hnew ((hs.listed _).mp h.symm)
    · exact hs.alternates k
  · rw [hmem, hreports, reportsOf_append]
    split
    · rename_i hk
      rw [List.getLastD_concat]
      exact iff_of_true hadded (Or.inl hk.symm)
    · rename_i hk
      rw [hs.listed k]
      exact ⟨Or.inr, fun h => h.resolve_left fun heq => hk heq.symm⟩

/-- Taking a serial number out and reporting it. -/
theorem tracks_removed (hs : Tracks s) {r : Report}
    (hadded : r.added = false) (hold : r.gwydata.key ∈ keys s)
    (hkeys : keys s' = (keys s).erase r.gwydata.key)
    (hreports : s'.reports = s.reports ++ [r]) : Tracks s' := by
  refine ⟨⟨?_, fun k => ?_⟩, fun k => ?_⟩
  · rw [hkeys]
    exact hs.nodup.erase _
  · rw [hreports, reportsOf_append]
    split
    · rename_i hk
      subst hk
      refine alternates_concat.mpr ⟨hs.alternates _, ?_⟩
      rw [hadded, (hs.listed _).mpr hold]
      decide
    · exact hs.alternates k
  · rw [hkeys, hs.nodup.mem_erase_iff, hreports, reportsOf_append]
    split
    · rename_i hk
      rw [List.getLastD_concat, hadded]
      exact iff_of_false (by decide) fun h => h.1 hk.symm
    · rename_i hk
      rw [hs.listed k]
      exact ⟨fun h => ⟨fun heq => hk heq.symm, h⟩, fun h => h.2⟩

/-- **One callback.** It keeps what is expected exactly if the serial numbers
stay different. -/
theorem tracks_step (hs : Tracks s) (h : callbackStep s n = some s')
    (hnodup : (keys s').Nodup) : Tracks s' := by
  cases callbackStep_cases h with
  | kept hno hkeys hreports => exact tracks_kept hs hkeys hreports
  | removed d di hno hmem hkeys hreports =>
      exact tracks_removed hs rfl hmem hkeys hreports
  | admitted c cs hcalls hyes hkeys hreports =>
      refine tracks_admitted hs rfl ?_ hkeys hreports
      rw [hkeys] at hnodup
      exact (nodup_insert.mp hnodup).1

theorem admitsNew_iff (hs : Tracks s) :
    AdmitsNew s n ↔ ∀ s', callbackStep s n = some s' → Tracks s' := by
  constructor
  · intro hnew s' h
    apply tracks_step hs h
    cases callbackStep_cases h with
    | kept hno hkeys hreports => rw [hkeys]; exact hs.nodup
    | removed d di hno hmem hkeys hreports =>
        rw [hkeys]
        exact hs.nodup.erase _
    | admitted c cs hcalls hyes hkeys hreports =>
        rw [hkeys]
        exact nodup_insert.mpr ⟨hnew hyes c cs hcalls, hs.nodup⟩
  · intro h hyes c cs hcalls
    obtain ⟨s', hs', -⟩ := callbackStep_of_admits hyes
    have hnodup := (h s' hs').nodup
    cases callbackStep_cases hs' with
    | kept hno => exact absurd hyes hno
    | removed d di hno => exact absurd hyes hno
    | admitted c' cs' hcalls' _ hkeys _ =>
        rw [hcalls] at hcalls'
        obtain ⟨rfl, -⟩ := List.cons.inj hcalls'
        rw [hkeys] at hnodup
        exact (nodup_insert.mp hnodup).1

end Step

/-! ## Runs -/

theorem tracks_started (ownSerialNo accountId : CStr) :
    Tracks (startedState ownSerialNo accountId) :=
  ⟨⟨List.nodup_nil, fun _ => trivial⟩, fun k => by
    simp [startedState, initState, reportsOf, keys]⟩

theorem everyState_tracks_iff (ownSerialNo accountId : CStr)
    (ns : List Notice) :
    EveryState callbackStep Tracks (startedState ownSerialNo accountId) ns ↔
      AllSteps callbackStep AdmitsNew
        (startedState ownSerialNo accountId) ns :=
  everyState_iff (J := fun _ => True) (fun _ _ _ _ _ => trivial)
    (fun _ _ _ hs => admitsNew_iff hs) trivial
    (tracks_started ownSerialNo accountId)

/-- **Every interleaving.** The list holds every serial number at most once,
and the reports of each alternate, all along a run of callbacks exactly if
every device that is let in is not listed at that moment. -/
theorem interleaving_run_iff (ownSerialNo accountId : CStr)
    (ns : List Notice) :
    EveryState callbackStep OncePerSerial
        (startedState ownSerialNo accountId) ns ↔
      AllSteps callbackStep AdmitsNew
        (startedState ownSerialNo accountId) ns := by
  rw [← everyState_tracks_iff]
  constructor
  · refine everyState_strengthen (J := fun _ => True)
      (fun _ _ _ _ _ => trivial) ?_ trivial
      (tracks_started ownSerialNo accountId)
    intro s n s' _ hs h honce
    exact tracks_step hs h honce.nodup
  · exact EveryState.imp fun s hs => hs.toOncePerSerial

/-- A device is announced twice, the second time while the first callback waits
for an answer: it is listed twice, and reported as added twice. -/
theorem interleaving_run_nested :
    ¬ EveryState callbackStep OncePerSerial
      (startedState (.lit "P1") (.lit "123"))
      (.available (some (gatewayProxy "P2")) ::
        .available (some (gatewayProxy "P2")) ::
        List.replicate 8 (.answer (some (some (.lit "123"))))) := by
  intro h
  have honce := h _ _ (List.prefix_refl _) rfl
  have hnodup := honce.nodup
  revert hnodup
  decide

/-! ## Callbacks that are kept apart -/

/-- The serial numbers whose callbacks are under way. -/
def callKeys (s : IdmState) : List CStr := s.calls.map fun c => c.gwydata.key

/-- No callback for the serial number of the notice is under way. -/
def Apart (s : IdmState) (n : Notice) : Prop :=
  ∀ p sno, n = .available (some p) → p.serialNumber = some sno →
    sno.strip ∉ callKeys s

/-- The callbacks under way are for different devices that are not listed. -/
structure Separate (s : IdmState) : Prop where
  nodup : (callKeys s).Nodup
  absent : ∀ k ∈ callKeys s, k ∉ keys s

section Apart

variable {s s' : IdmState} {n : Notice}

/-- A callback that comes to wait is for a device that is not listed. -/
theorem available_calls (p : DeviceProxy) :
    callKeys (deviceProxyAvailableCbBgw p s) = callKeys s ∨
      ∃ sno, p.serialNumber = some sno ∧ sno.strip ∉ keys s ∧
        callKeys (deviceProxyAvailableCbBgw p s) =
          sno.strip :: callKeys s := by
  have hnone := listFindSno_none p.serialNumber s.xdevlist
  unfold deviceProxyAvailableCbBgw
  cases hf : listFindSno p.serialNumber s.xdevlist with
  | mk ds found =>
      rw [hf] at hnone
      cases found with
      | some d => exact Or.inl rfl
      | none =>
          dsimp only
          split
          · rename_i sno receiverid hsno hid
            refine Or.inr ⟨sno, hsno, fun hmem => ?_, ?_⟩
            · exact hnone rfl _ hmem (by rw [hsno]; rfl)
            · show CStr.strip (if ds = [] then sno else sno.strip) :: _ = _
              split
              · rfl
              · rw [CStr.strip_strip]
                rfl
          · exact Or.inl rfl

theorem fill_key (c : Call) (f : InfoField) (result : Option (Option CStr))
    (next : Request) : (c.fill f result next).gwydata.key = c.gwydata.key := by
  unfold Call.fill
  cases result with
  | none => rfl
  | some temp => exact c.gwydata.key_assign f _

/-- An answer lets the innermost call go on or end. -/
theorem resume_calls {result : Option (Option CStr)}
    (h : resume result s = some s') :
    callKeys s' = callKeys s ∨ callKeys s' = (callKeys s).tail := by
  have hend : ∀ t : IdmState, t.calls = s.calls.tail →
      callKeys t = (callKeys s).tail := by
    intro t ht
    rw [callKeys, ht, List.map_tail]
    rfl
  cases hcalls : s.calls with
  | nil =>
      rw [resume, hcalls] at h
      cases h
  | cons c cs =>
      by_cases hreq : c.request = .getAccountId
      · rw [resume, hcalls] at h
        dsimp only at h
        rw [hreq] at h
        rcases result with _ | _ | temp
        · obtain rfl := Option.some.inj h
          exact Or.inr (hend _ rfl)
        · cases h
        · obtain rfl := Option.some.inj h
          exact Or.inr (hend _ (accountAnswered_calls c temp))
      · obtain ⟨f, next, hgo⟩ := resume_early hcalls hreq result
        obtain rfl := Option.some.inj (hgo.symm.trans h)
        left
        show (c.fill f result next).gwydata.key :: _ = callKeys s
        rw [fill_key, callKeys, hcalls]
        rfl

/-- **The callbacks under way.** One begins, one ends, or they stay. -/
theorem callbackStep_calls (h : callbackStep s n = some s') :
    callKeys s' = callKeys s ∨ callKeys s' = (callKeys s).tail ∨
      ∃ p sno, n = .available (some p) ∧ p.serialNumber = some sno ∧
        sno.strip ∉ keys s ∧ callKeys s' = sno.strip :: callKeys s := by
  cases n with
  | available p =>
      cases p with
      | none =>
          obtain rfl := Option.some.inj h
          exact Or.inl rfl
      | some p =>
          obtain rfl := Option.some.inj h
          rcases available_calls (s := s) p with hsame | ⟨sno, hsno, hnew, hc⟩
          · exact Or.inl hsame
          · exact Or.inr (Or.inr ⟨p, sno, rfl, hsno, hnew, hc⟩)
  | answer result =>
      rcases resume_calls h with hsame | htail
      · exact Or.inl hsame
      · exact Or.inr (Or.inl htail)
  | unavailable sno di =>
      left
      rw [callKeys, unavailable_same_calls h]
      rfl
  | getAccountId source =>
      obtain rfl := Option.some.inj h
      exact Or.inl rfl

theorem separate_step (hs : Separate s) (hn : Apart s n)
    (h : callbackStep s n = some s') : Separate s' := by
  -- The callbacks stay different, and new ones are for devices not listed.
  have hcalls : (callKeys s').Nodup ∧
      ∀ k ∈ callKeys s', k ∉ keys s := by
    rcases callbackStep_calls h with hc | hc | ⟨p, sno, hp, hsno, hnew, hc⟩
    · rw [hc]
      exact ⟨hs.nodup, hs.absent⟩
    · rw [hc]
      exact ⟨hs.nodup.tail, fun k hk => hs.absent k (List.mem_of_mem_tail hk)⟩
    · rw [hc]
      refine ⟨List.nodup_cons.mpr ⟨hn p sno hp hsno, hs.nodup⟩, ?_⟩
      intro k hk
      rcases List.mem_cons.mp hk with rfl | hk
      · exact hnew
      · exact hs.absent k hk
  refine ⟨hcalls.1, fun k hk => ?_⟩
  cases callbackStep_cases h with
  | kept hno hkeys hreports =>
      rw [hkeys]
      exact hcalls.2 k hk
  | removed d di hno hmem hkeys hreports =>
      rw [hkeys]
      exact fun hmem' => hcalls.2 k hk (List.mem_of_mem_erase hmem')
  | admitted c cs hcs hyes hkeys hreports =>
      -- The device now listed is the one whose callback has ended.
      rw [hkeys, List.mem_orderedInsert]
      rintro (rfl | hmem)
      · obtain ⟨t, ht, htail⟩ := callbackStep_of_admits hyes
        obtain rfl : t = s' := Option.some.inj (ht.symm.trans h)
        have hrest : callKeys t = cs.map fun c => c.gwydata.key := by
          rw [callKeys, htail, hcs]
          rfl
        have hnodup := hs.nodup
        rw [callKeys, hcs, List.map_cons, List.nodup_cons, ← hrest] at hnodup
        exact hnodup.1 hk
      · exact hcalls.2 k hk hmem

/-- **Enough for every interleaving.** Where no callback begins for a serial
number while another one for it is under way, all is as expected. -/
theorem oncePerSerial_of_apart (ownSerialNo accountId : CStr)
    (ns : List Notice)
    (h : AllSteps callbackStep Apart (startedState ownSerialNo accountId) ns) :
    EveryState callbackStep OncePerSerial
      (startedState ownSerialNo accountId) ns := by
  have hstart : Separate (startedState ownSerialNo accountId) :=
    ⟨List.nodup_nil, fun k hk => by cases hk⟩
  have hnew := h.of_invariant (Q := AdmitsNew)
    (fun _ _ _ hs hn hstep => separate_step hs hn hstep) ?_ hstart
  · exact ((everyState_tracks_iff ownSerialNo accountId ns).mpr hnew).imp
      fun s hs => hs.toOncePerSerial
  · intro s n hs _ _ c cs hcs
    apply hs.absent _
    rw [callKeys, hcs]
    exact List.mem_cons_self

end Apart

end Xupnp.Idm
