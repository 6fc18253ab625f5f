import Xupnp.Library.Run
import Xupnp.MediaBrowser.Model

/-!
# Who gives `locker` back

Every call that looks at `msList` gives `locker` back as often as it takes it,
except one: `device_proxy_unavailable_mr_cb` unlocks only behind an entry it
never has in its hand. `locker_run_iff` says in which sequences of calls no
call starts with `locker` still held.
-/

namespace Xupnp.MediaBrowser

open Xupnp.Library Locking

variable {S : Type}

/-- The call starts with `locker` free and never waits for it, and if it
returns, each of its locks has been followed by exactly one unlock. -/
structure MatchedCall (p : Platform S) (s : Server S) (c : Call S) : Prop where
  free : s.locked = false
  goes_on : run p s c ≠ .error .waits
  matched : ∀ s', run p s c = .ok s' →
    ∃ own, s'.ops = s.ops ++ own ∧ Matched own

/-- A device is announced gone, and the search for it ends: it has a UDN to be
compared, or there is nothing to compare it with. -/
def LeavesLocked (s : Server S) : Call S → Prop
  | .unavailable (some dproxy) => dproxy.udn ≠ none ∨ s.data = []
  | _ => False

/-! ## The calls that give it back -/

section Balanced

variable (p : Platform S)

theorem deviceProxyAvailableMrCb_balanced
    (dproxy : Option (DeviceProxy S)) :
    Balanced (deviceProxyAvailableMrCb p dproxy) := by
  cases dproxy with
  | none => exact (quiet_pure ()).balanced
  | some dproxy =>
      -- One section looks the device up, the other one appends it.
      refine .critical (quiet_read _) fun msListItem => ?_
      split
      · exact (quiet_pure ()).balanced
      · apply (quiet_read _).balanced.bind
        intro udn
        apply (quiet_read _).balanced.bind
        intro friendlyname
        exact .critical (quiet_update _) fun _ => (quiet_pure ()).balanced

theorem browseRemoteDirWithUdn_balanced (serverUdn pathId : Option CStr)
    (startIndex maxEntries totalCount : Int32) (results : Option CStr) :
    Balanced (browseRemoteDirWithUdn p serverUdn pathId startIndex maxEntries
      totalCount results) := by
  refine .critical (quiet_read _) fun msListItem => ?_
  cases msListItem with
  | none => exact (quiet_pure _).balanced
  | some link => exact (quiet_pure _).balanced

theorem getServerDetails_balanced (inParams outParams : RbusObject) :
    Balanced (getServerDetails p inParams outParams) := by
  apply (quiet_read _).balanced.bind
  intro msList
  split
  · exact (quiet_pure _).balanced
  · exact .critical (quiet_read _) fun _ => (quiet_pure _).balanced

theorem getServerContents_balanced (inParams outParams : RbusObject) :
    Balanced (getServerContents p inParams outParams) := by
  unfold getServerContents
  split
  · apply (quiet_read _).balanced.bind
    intro startIndex
    apply (quiet_read _).balanced.bind
    intro maxResults
    apply (browseRemoteDirWithUdn_balanced p _ _ _ _ _ _).bind
    rintro ⟨browsed, totalCount, entries⟩
    dsimp only
    split
    · exact (quiet_read _).balanced.bind fun _ => (quiet_pure _).balanced
    · exact (quiet_pure _).balanced
  · exact (quiet_pure _).balanced

theorem discoveredDevicesSize_balanced (outParams : RbusObject) :
    Balanced (discoveredDevicesSize (S := S) outParams) := by
  apply (quiet_read _).balanced.bind
  intro msList
  split
  · exact (quiet_pure _).balanced
  · exact .critical (quiet_read _) fun _ => (quiet_pure _).balanced

theorem remoteMethodHandler_balanced (methodName : CStr)
    (inParams outParams : RbusObject) :
    Balanced (remoteMethodHandler p methodName inParams outParams) := by
  unfold remoteMethodHandler
  split_ifs
  · exact (discoveredDevicesSize_balanced _).bind fun _ =>
      (quiet_pure _).balanced
  · exact (getServerDetails_balanced p _ _).bind fun _ =>
      (quiet_pure _).balanced
  · exact (getServerContents_balanced p _ _).bind fun _ =>
      (quiet_pure _).balanced
  · exact (quiet_pure _).balanced

end Balanced

/-! ## The call that does not -/

theorem gListFindCustom_isSome {p : Platform S} {udn : Option CStr}
    {msList : List (MediaServerCfg S)} :
    (gListFindCustom p udn msList).isSome ↔ udn ≠ none ∨ msList = [] := by
  cases udn with
  | some udn => simp [gListFindCustom]
  | none => cases msList <;> simp [gListFindCustom]

/-- **A device that goes leaves `locker` held**, unless the search faults. -/
theorem deviceProxyUnavailableMrCb_free (p : Platform S)
    (dproxy : DeviceProxy S) {s : Server S} (hs : s.locked = false) :
    deviceProxyUnavailableMrCb p (some dproxy) s =
      match gListFindCustom p dproxy.udn s.data with
      | some _ => .ok ((), { s with ops := s.ops ++ [true] })
      | none => .error .faults := by
  show (do lock; let _ ← read (gListFindCustom p dproxy.udn); pure ()) s = _
  rw [bind_ok (lock_free hs)]
  cases hfind : gListFindCustom p dproxy.udn s.data with
  | none => exact bind_error (read_none hfind)
  | some link => exact bind_ok (read_some hfind)

/-! ## One call, and sequences of calls -/

/-- A call that gives back what it takes is matched. -/
theorem matchedCall_of_balanced {α : Type} {p : Platform S} {s : Server S}
    {c : Call S} {m : ServerCall S α} (hs : s.locked = false)
    (hm : Balanced m) (hrun : run p s c = (m s).map Prod.snd) :
    MatchedCall p s c := by
  refine ⟨hs, fun h => ?_, fun s' h => ?_⟩
  · rw [hrun, map_snd_eq_error] at h
    exact hm.goes_on s hs h
  · rw [hrun, map_snd_eq_ok] at h
    obtain ⟨a, h⟩ := h
    exact hm.matched s a s' hs h

/-- From a free `locker`, the calls that are not matched are those that leave
it locked. -/
theorem matchedCall_iff (p : Platform S) {s : Server S}
    (hs : s.locked = false) (c : Call S) :
    MatchedCall p s c ↔ ¬ LeavesLocked s c := by
  cases c with
  | available dproxy =>
      exact iff_of_true (matchedCall_of_balanced hs
        (deviceProxyAvailableMrCb_balanced p dproxy) rfl) id
  | browse serverUdn pathId startIndex maxEntries totalCount results =>
      exact iff_of_true (matchedCall_of_balanced hs
        (browseRemoteDirWithUdn_balanced p _ _ _ _ _ _) rfl) id
  | serverDetails inParams outParams =>
      exact iff_of_true (matchedCall_of_balanced hs
        (getServerDetails_balanced p inParams outParams) rfl) id
  | remoteMethod methodName inParams outParams =>
      exact iff_of_true (matchedCall_of_balanced hs
        (remoteMethodHandler_balanced p _ _ _) rfl) id
  | unavailable dproxy =>
      cases dproxy with
      | none =>
          exact iff_of_true
            (matchedCall_of_balanced hs (quiet_pure ()).balanced rfl) id
      | some dproxy =>
          show _ ↔ ¬ (dproxy.udn ≠ none ∨ s.data = [])
          rw [← gListFindCustom_isSome (p := p)]
          have hcall := deviceProxyUnavailableMrCb_free p dproxy hs
          cases hfind : gListFindCustom p dproxy.udn s.data with
          | none =>
              -- The search faults, and nothing returns.
              have hrun : run p s (.unavailable (some dproxy)) =
                  .error .faults := by
                rw [run, hcall, hfind]
                rfl
              refine iff_of_true ⟨hs, ?_, fun s' h => ?_⟩ (by simp)
              · rw [hrun]
                simp
              · rw [hrun] at h
                cases h
          | some link =>
              have hrun : run p s (.unavailable (some dproxy)) =
                  .ok { s with ops := s.ops ++ [true] } := by
                rw [run, hcall, hfind]
                rfl
              apply iff_of_false _ (by simp)
              intro h
              obtain ⟨own, hops, hown⟩ := h.matched _ hrun
              obtain rfl := List.append_cancel_left hops
              cases hown

/-- **`locker` in sequences of calls.** Whatever the list, every call of the
sequence starts with `locker` free, never waits for it and unlocks it as often
as it locks it exactly when none of them is told that a device is gone. -/
theorem locker_run_iff (p : Platform S) (msList : List (MediaServerCfg S))
    (cs : List (Call S)) :
    AllSteps (step p) (MatchedCall p) ⟨msList, []⟩ cs ↔
      AllSteps (step p) (fun s c => ¬ LeavesLocked s c) ⟨msList, []⟩ cs := by
  have hfree : (⟨msList, []⟩ : Server S).locked = false := rfl
  have hkeep : ∀ s c s', s.locked = false → MatchedCall p s c →
      step p s c = some s' → s'.locked = false := by
    intro s c s' hs hc hstep
    obtain ⟨own, hops, hown⟩ := hc.matched s' (step_eq_some.mp hstep)
    exact locked_of_matched hs hops hown
  constructor
  · intro h
    exact h.of_invariant hkeep (fun s c hs => (matchedCall_iff p hs c).mp)
      hfree
  · intro h
    refine AllSteps.of_invariant (I := fun s : Server S => s.locked = false)
      ?_ (fun s c hs => (matchedCall_iff p hs c).mpr) hfree h
    intro s c s' hs hc
    exact hkeep s c s' hs ((matchedCall_iff p hs c).mpr hc)

/-- A device that goes, and the next call that wants `locker`: it waits. -/
theorem locker_run_gone :
    ¬ AllSteps (step Platform.offline)
        (MatchedCall Platform.offline) ⟨[], []⟩
        [.unavailable (some ⟨some (.lit "uuid:1"), none, none⟩),
          .browse (some (.lit "uuid:1")) (some (.lit "0")) 0 10 0 none] ∧
      ∃ s, runFrom (step Platform.offline) ⟨[], []⟩
          [.unavailable (some ⟨some (.lit "uuid:1"), none, none⟩)] = some s ∧
        run Platform.offline s
          (.browse (some (.lit "uuid:1")) (some (.lit "0")) 0 10 0 none) =
          .error .waits := by
  refine ⟨fun h => ?_, _, rfl, rfl⟩
  exact absurd (h.2 _ rfl).1.free (by decide)

end Xupnp.MediaBrowser
