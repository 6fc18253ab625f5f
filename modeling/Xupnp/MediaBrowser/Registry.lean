import Mathlib.Data.List.Count
import Xupnp.MediaBrowser.Locking

/-!
# Which servers are listed

`msList` is meant to hold one entry for every media server that is available.
Nothing is ever taken out of it, and a device that goes leaves `locker` held,
so that the next device is never looked at. `registered_iff` says for which
sequences of events the list is what it is meant to be.
-/

namespace Xupnp.MediaBrowser

open Xupnp.Library Locking

variable {S : Type}

/-! ## Events -/

/-- What the control point is told. `none` is a null pointer among the
arguments of the callback. -/
inductive Event (S : Type) where
  | available (dproxy : Option (DeviceProxy S))
  | unavailable (dproxy : Option (DeviceProxy S))

def Event.call : Event S → Call S
  | .available dproxy => .available dproxy
  | .unavailable dproxy => .unavailable dproxy

def eventStep (p : Platform S) (s : Server S) (e : Event S) :
    Option (Server S) := step p s e.call

theorem eventStep_eq_some {p : Platform S} {s s' : Server S} {e : Event S} :
    eventStep p s e = some s' ↔ run p s e.call = .ok s' := step_eq_some

/-- Is the server available after the event, given whether it was before? -/
def Event.note (u : CStr) (was : Bool) : Event S → Bool
  | .available (some dproxy) => was || dproxy.udn = some u
  | .unavailable (some dproxy) => was && !decide (dproxy.udn = some u)
  | _ => was

/-- Is the latest event about the server one that makes it available? -/
def available (u : CStr) (es : List (Event S)) : Bool :=
  es.foldl (Event.note u) false

/-- Does the event say that a device is gone? -/
def Event.isGone : Event S → Bool
  | .unavailable (some _) => true
  | _ => false

/-- How often the server is listed. -/
def listed (u : CStr) (s : Server S) : ℕ :=
  s.data.countP fun ms => ms.udn = u

/-- Whatever happens, there is a next state, and it lists every available
server once and no other. -/
def Registered (p : Platform S) (es : List (Event S)) : Prop :=
  ∀ pre, pre <+: es →
    ∃ s, runFrom (eventStep p) initServer pre = some s ∧
      ∀ u, listed u s = if available u pre then 1 else 0

/-- What an event has to be for the browser to follow it: nothing is gone yet,
a device that is announced has a UDN, and a name if it is new, and a device
that goes has not been available. -/
def Followed (takes : ℕ → Bool) (pre : List (Event S)) : Event S → Prop
  | .available (some dproxy) =>
      (∀ e ∈ pre, e.isGone = false) ∧
        ∃ u, dproxy.udn = some u ∧
          if available u pre then takes u.bytes.length = true
          else dproxy.friendlyName ≠ none
  | .unavailable (some dproxy) =>
      (∀ e ∈ pre, e.isGone = false) ∧
        ∀ u, available u pre = true → dproxy.udn ≠ none ∧ dproxy.udn ≠ some u
  | _ => True

@[simp] theorem available_concat (u : CStr) (pre : List (Event S))
    (e : Event S) : available u (pre ++ [e]) = e.note u (available u pre) := by
  simp [available]

theorem listed_concat (u : CStr) (s : Server S) (ms : MediaServerCfg S)
    (ops : List Bool) :
    listed u ⟨s.data ++ [ms], ops⟩ =
      listed u s + if ms.udn = u then 1 else 0 := by
  simp [listed, List.countP_append, List.countP_singleton]

/-! ## The callbacks on a free `locker` -/

section Callbacks

variable {p : Platform S} {takes : ℕ → Bool} {s : Server S}

/-- The search compares with every UDN, if it takes the one it looks for. -/
theorem gListFindUdn_iff (hp : p.Documented takes) {u : CStr}
    {ms : MediaServerCfg S} :
    gListFindUdn p u ms = true ↔
      takes u.bytes.length = true ∧ ms.udn = u := by
  rw [gListFindUdn, decide_eq_true_eq]
  cases htakes : takes u.bytes.length with
  | false => simp [hp.refuses u ms.udn htakes]
  | true =>
      obtain ⟨r, hr, hzero⟩ := hp.compares u ms.udn htakes
      rw [hr, Option.some.injEq, hzero]
      simp [eq_comm]

/-- What the search for a UDN finds is in the list. -/
theorem gListFindCustom_found (hp : p.Documented takes) {u : CStr} :
    ∃ link, gListFindCustom p (some u) s.data = some link ∧
      (link.isSome = true ↔ takes u.bytes.length = true ∧ 0 < listed u s) := by
  refine ⟨_, rfl, ?_⟩
  rw [List.find?_isSome, listed, List.countP_pos_iff]
  constructor
  · rintro ⟨⟨ms, i⟩, hmem, hfound⟩
    obtain ⟨htakes, hudn⟩ := (gListFindUdn_iff hp).mp hfound
    exact ⟨htakes, ms, (List.mem_zipIdx' hmem).2 ▸ List.getElem_mem _,
      decide_eq_true hudn⟩
  · rintro ⟨htakes, ms, hmem, hudn⟩
    obtain ⟨i, hi, rfl⟩ := List.mem_iff_getElem.mp hmem
    refine ⟨(s.data[i], i), ?_, ?_⟩
    · exact List.mem_zipIdx_iff_getElem?.mpr (List.getElem?_eq_getElem hi)
    · exact (gListFindUdn_iff hp).mpr ⟨htakes, of_decide_eq_true hudn⟩

/-- A device is looked up, and appended unless it is found. -/
theorem deviceProxyAvailableMrCb_free (p : Platform S)
    (dproxy : DeviceProxy S) (hs : s.locked = false) :
    deviceProxyAvailableMrCb p (some dproxy) s =
      match gListFindCustom p dproxy.udn s.data with
      | none => .error .faults
      | some (some _) => .ok ((), { s with ops := s.ops ++ [true, false] })
      | some none =>
          match dproxy.udn, dproxy.friendlyName with
          | some udn, some friendlyname =>
              .ok ((), { data := s.data ++
                          [⟨friendlyname, udn, dproxy.contentDirectory⟩]
                         ops := s.ops ++ [true, false] ++ [true, false] })
          | _, _ => .error .faults := by
  unfold deviceProxyAvailableMrCb
  cases hfind : gListFindCustom p dproxy.udn s.data with
  | none => exact critical_error (quiet_read _) hs (read_none hfind)
  | some link =>
      apply (critical_ok (quiet_read _) hs (read_some hfind)).trans
      cases link with
      | some link => rfl
      | none =>
          rw [if_neg (by simp)]
          cases hudn : dproxy.udn with
          | none => exact bind_error (strdup_none _)
          | some udn =>
              apply (bind_ok (strdup_some _ _)).trans
              cases hname : dproxy.friendlyName with
              | none => exact bind_error (strdup_none _)
              | some friendlyname =>
                  apply (bind_ok (strdup_some _ _)).trans
                  exact critical_ok (quiet_update _) (locked_section _ _) rfl

end Callbacks

/-! ## One event -/

/-- The list holds what it is meant to, and `locker` is held once a device is
gone. -/
structure Follows (s : Server S) (pre : List (Event S)) : Prop where
  locked : s.locked = pre.any Event.isGone
  listed : ∀ u, listed u s = if available u pre then 1 else 0

section OneEvent

variable {p : Platform S} {takes : ℕ → Bool} {s : Server S}
  {pre : List (Event S)}

/-- A callback that looks at the list waits while `locker` is held. -/
theorem run_locked (hs : s.locked = true) (dproxy : DeviceProxy S) :
    run p s (.available (some dproxy)) = .error .waits ∧
      run p s (.unavailable (some dproxy)) = .error .waits :=
  ⟨map_snd_eq_error.mpr (waits_of_held hs _),
    map_snd_eq_error.mpr (waits_of_held hs _)⟩

/-- `locker` is held after a device is gone, and after nothing else. -/
theorem eventStep_isGone {s' : Server S} {e : Event S}
    (h : eventStep p s e = some s') :
    s'.locked = (s.locked || e.isGone) := by
  rw [eventStep_eq_some] at h
  cases e with
  | available dproxy =>
      cases dproxy with
      | none =>
          obtain rfl := Except.ok.inj h
          exact (Bool.or_false _).symm
      | some dproxy =>
          cases hs : s.locked with
          | true =>
              have hwait := (run_locked (p := p) hs dproxy).1.symm.trans h
              cases hwait
          | false =>
              obtain ⟨a, h⟩ := map_snd_eq_ok.mp h
              exact (deviceProxyAvailableMrCb_balanced p _).free hs h
  | unavailable dproxy =>
      cases dproxy with
      | none =>
          obtain rfl := Except.ok.inj h
          exact (Bool.or_false _).symm
      | some dproxy =>
          cases hs : s.locked with
          | true =>
              have hwait := (run_locked (p := p) hs dproxy).2.symm.trans h
              cases hwait
          | false =>
              obtain ⟨a, h⟩ := map_snd_eq_ok.mp h
              rw [deviceProxyUnavailableMrCb_free p dproxy hs] at h
              split at h
              · obtain ⟨-, rfl⟩ := Prod.mk.inj (Except.ok.inj h)
                simp [Event.isGone]
              · cases h

theorem any_isGone_eq_false :
    pre.any Event.isGone = false ↔ ∀ e ∈ pre, e.isGone = false := by
  simp [List.any_eq_false]

theorem listed_pos (h : Follows s pre) {u : CStr} :
    0 < listed u s ↔ available u pre = true := by
  rw [h.listed u]
  split <;> simp_all

/-- Nobody is available, so nobody is listed. -/
theorem data_eq_nil_iff (h : Follows s pre) :
    s.data = [] ↔ ∀ u, available u pre = false := by
  constructor
  · intro hnil u
    have := listed_pos h (u := u)
    rw [listed, hnil] at this
    simpa using this
  · intro hnone
    cases hdata : s.data with
    | nil => rfl
    | cons ms msList =>
        have := (listed_pos h (u := ms.udn)).mp
        rw [listed, hdata, hnone] at this
        simp at this

/-- The step of `registered_iff` for a device that comes. -/
theorem available_step (hp : p.Documented takes) (h : Follows s pre)
    (hs : s.locked = false) (dproxy : DeviceProxy S) :
    (∃ u, dproxy.udn = some u ∧
      if available u pre then takes u.bytes.length = true
      else dproxy.friendlyName ≠ none) ↔
    ∃ s', run p s (.available (some dproxy)) = .ok s' ∧
      ∀ u, listed u s' =
        if available u pre || decide (dproxy.udn = some u) then 1 else 0 := by
  rw [run, deviceProxyAvailableMrCb_free p dproxy hs]
  cases hudn : dproxy.udn with
  | none =>
      refine iff_of_false (by simp) ?_
      rintro ⟨s', hs', -⟩
      -- Either the search faults, or `strdup` does.
      cases hdata : s.data with
      | nil => rw [hdata] at hs'; cases hs'
      | cons ms msList => rw [hdata] at hs'; cases hs'
  | some u =>
      obtain ⟨link, hlink, hfound⟩ := gListFindCustom_found (s := s) hp (u := u)
      rw [listed_pos h] at hfound
      rw [hlink]
      cases link with
      | some link =>
          -- Listed already: nothing changes.
          obtain ⟨htakes, havail⟩ := hfound.mp rfl
          refine iff_of_true ⟨u, rfl, ?_⟩ ⟨_, rfl, fun v => ?_⟩
          · rwa [if_pos havail]
          · apply (h.listed v).trans
            by_cases huv : u = v
            · simp [← huv, havail]
            · simp [huv]
      | none =>
          have hnot : ¬ (takes u.bytes.length = true ∧
              available u pre = true) := by
            rw [← hfound]
            exact Bool.false_ne_true
          have hcond : (∃ v, some u = some v ∧
              if available v pre then takes v.bytes.length = true
              else dproxy.friendlyName ≠ none) ↔
              available u pre = false ∧ dproxy.friendlyName ≠ none := by
            simp only [Option.some.injEq, exists_eq_left']
            cases havail : available u pre with
            | false => simp
            | true => simpa using fun htakes => hnot ⟨htakes, havail⟩
          rw [hcond]
          cases hname : dproxy.friendlyName with
          | none =>
              refine iff_of_false (by simp) ?_
              rintro ⟨s', hs', -⟩
              cases hs'
          | some name =>
              -- Appended: once more than before.
              constructor
              · rintro ⟨hnew, -⟩
                refine ⟨_, rfl, fun v => ?_⟩
                rw [listed_concat, h.listed]
                by_cases huv : u = v
                · simp [← huv, hnew]
                · simp [huv]
              · rintro ⟨s', hs', hlisted⟩
                obtain rfl := Except.ok.inj hs'
                have hu := hlisted u
                rw [listed_concat, h.listed] at hu
                refine ⟨?_, Option.some_ne_none name⟩
                cases havail : available u pre with
                | false => rfl
                | true => simp [havail] at hu

/-- The step of `registered_iff` for a device that goes. -/
theorem unavailable_step (h : Follows s pre) (hs : s.locked = false)
    (dproxy : DeviceProxy S) :
    (∀ u, available u pre = true → dproxy.udn ≠ none ∧ dproxy.udn ≠ some u) ↔
    ∃ s', run p s (.unavailable (some dproxy)) = .ok s' ∧
      ∀ u, listed u s' =
        if available u pre && !decide (dproxy.udn = some u) then 1 else 0 := by
  rw [run, deviceProxyUnavailableMrCb_free p dproxy hs]
  cases hfind : gListFindCustom p dproxy.udn s.data with
  | none =>
      -- Somebody is listed, and there is no UDN to look for.
      have hnot := gListFindCustom_isSome.not.mp (by rw [hfind]; simp)
      rw [not_or, not_not, data_eq_nil_iff h, not_forall] at hnot
      obtain ⟨hudn, u, havail⟩ := hnot
      rw [Bool.not_eq_false] at havail
      apply iff_of_false
      · intro hgone
        exact (hgone u havail).1 hudn
      · rintro ⟨s', hs', -⟩
        cases hs'
  | some link =>
      -- The list stays as it is.
      have hfound := gListFindCustom_isSome.mp (by rw [hfind]; rfl)
      constructor
      · intro hgone
        refine ⟨_, rfl, fun u => (h.listed u).trans ?_⟩
        cases havail : available u pre with
        | false => rfl
        | true => simp [(hgone u havail).2]
      · rintro ⟨s', hs', hlisted⟩ u havail
        obtain rfl := Except.ok.inj hs'
        have hone := (h.listed u).symm.trans (hlisted u)
        rw [havail] at hone
        refine ⟨?_, fun hudn => ?_⟩
        · apply hfound.resolve_right
          intro hnil
          rw [(data_eq_nil_iff h).mp hnil u] at havail
          cases havail
        · simp [hudn] at hone

/-- **One event.** The browser follows it exactly when it is one it can. -/
theorem followed_iff (hp : p.Documented takes) (h : Follows s pre)
    (e : Event S) :
    Followed takes pre e ↔
      ∃ s', eventStep p s e = some s' ∧ Follows s' (pre ++ [e]) := by
  have hfollows : ∀ s', eventStep p s e = some s' →
      (Follows s' (pre ++ [e]) ↔
        ∀ u, listed u s' =
          if e.note u (available u pre) then 1 else 0) := by
    intro s' hs'
    have hlock := eventStep_isGone hs'
    rw [h.locked] at hlock
    constructor
    · intro hs u
      rw [hs.listed u, available_concat]
    · intro hs
      refine ⟨by simpa using hlock, fun u => ?_⟩
      rw [hs u, available_concat]
  have hstep : (∃ s', eventStep p s e = some s' ∧ Follows s' (pre ++ [e])) ↔
      ∃ s', run p s e.call = .ok s' ∧
        ∀ u, listed u s' = if e.note u (available u pre) then 1 else 0 := by
    apply exists_congr
    intro s'
    rw [and_congr_right (hfollows s'), eventStep_eq_some]
  rw [hstep]
  have hgone : s.locked = false ↔ ∀ e ∈ pre, e.isGone = false := by
    rw [h.locked, any_isGone_eq_false]
  -- While `locker` is held, a device waits, and none was to come.
  have hheld : s.locked = true → run p s e.call = .error .waits → ∀ C : Prop,
      ((∀ e ∈ pre, e.isGone = false) ∧ C ↔
        ∃ s', run p s e.call = .ok s' ∧
          ∀ u, listed u s' = if e.note u (available u pre) then 1 else 0) := by
    intro hs hwait C
    refine iff_of_false (fun hf => ?_) ?_
    · rw [hgone.mpr hf.1] at hs
      cases hs
    · rintro ⟨s', hs', -⟩
      rw [hwait] at hs'
      cases hs'
  cases e with
  | available dproxy =>
      cases dproxy with
      | none => exact iff_of_true trivial ⟨s, rfl, h.listed⟩
      | some dproxy =>
          cases hs : s.locked with
          | true => exact hheld hs (run_locked hs dproxy).1 _
          | false =>
              exact (and_iff_right (hgone.mp hs)).trans
                (available_step hp h hs dproxy)
  | unavailable dproxy =>
      cases dproxy with
      | none => exact iff_of_true trivial ⟨s, rfl, h.listed⟩
      | some dproxy =>
          cases hs : s.locked with
          | true => exact hheld hs (run_locked hs dproxy).2 _
          | false =>
              exact (and_iff_right (hgone.mp hs)).trans
                (unavailable_step h hs dproxy)

end OneEvent

/-! ## Sequences of events -/

/-- `locker` along the events. -/
theorem runFrom_isGone {p : Platform S} {es : List (Event S)} {s : Server S}
    (h : runFrom (eventStep p) initServer es = some s) :
    s.locked = es.any Event.isGone := by
  induction es using List.reverseRecOn generalizing s with
  | nil =>
      obtain rfl := Option.some.inj h
      rfl
  | append_singleton es e ih =>
      rw [runFrom_snoc] at h
      obtain ⟨t, ht, h⟩ := Option.bind_eq_some_iff.mp h
      rw [eventStep_isGone h, ih ht]
      simp

/-- **The list along the events.** It holds one entry for every available
server and no other exactly when every event is one the browser can follow. -/
theorem registered_iff {p : Platform S} {takes : ℕ → Bool}
    (hp : p.Documented takes) (es : List (Event S)) :
    Registered p es ↔
      ∀ pre e post, es = pre ++ e :: post → Followed takes pre e := by
  have hfold : ∀ pre : List (Event S),
      pre.foldl (fun a e => a ++ [e]) [] = pre := by
    intro pre
    induction pre using List.reverseRecOn with
    | nil => rfl
    | append_singleton pre e ih => rw [List.foldl_append, ih]; rfl
  have hrun : ∀ pre : List (Event S),
      runFrom (fun a e => some (a ++ [e])) [] pre = some pre := by
    intro pre
    rw [runFrom_total (fun _ _ => rfl), hfold]
  have hinit : Follows (initServer : Server S) [] := ⟨rfl, fun u => rfl⟩
  have hsteps : RefinesAlong (eventStep p) (fun a e => a ++ [e]) Follows
      initServer [] es ↔
      AllSteps (fun a e => some (a ++ [e])) (Followed takes) [] es := by
    refine refinesAlong_iff (E := fun _ => True) ?_ hinit fun _ _ => trivial
    intro s pre e _ h
    exact followed_iff hp h e
  rw [allSteps_iff] at hsteps
  have hreg : Registered p es ↔
      RefinesAlong (eventStep p) (fun a e => a ++ [e]) Follows initServer []
        es := by
    apply forall_congr'
    intro pre
    apply forall_congr'
    intro _
    rw [hfold]
    apply exists_congr
    intro s
    apply and_congr_right
    intro hs
    exact ⟨fun h => ⟨runFrom_isGone hs, h⟩, fun h => h.listed⟩
  rw [hreg, hsteps]
  refine forall_congr' fun pre => forall_congr' fun e =>
    forall_congr' fun post => imp_congr_right fun _ => ?_
  rw [hrun]
  exact ⟨fun h => h pre rfl, fun h _ ha => Option.some.inj ha ▸ h⟩

/-- A server that is announced twice is listed once. -/
theorem registered_twice :
    Registered Platform.offline
      [.available (some ⟨some (.lit "uuid:1"), some (.lit "NAS"), none⟩),
        .available (some ⟨some (.lit "uuid:1"), some (.lit "NAS"), none⟩)] := by
  apply (registered_iff (Platform.plain_documented _) _).mpr
  intro pre e post h
  rcases pre with _ | ⟨e₁, _ | ⟨e₂, pre⟩⟩
  · obtain ⟨rfl, -⟩ := List.cons.inj h
    exact ⟨by simp, _, rfl, by decide⟩
  · injection h with h₁ h
    injection h with h₂
    subst h₁ h₂
    exact ⟨by simp [Event.isGone], _, rfl, by decide⟩
  · have := congrArg List.length h
    simp at this

/-- A server that goes stays listed, and the next one finds `locker` held. -/
theorem registered_gone :
    ¬ Registered Platform.offline
        [.available (some ⟨some (.lit "uuid:1"), some (.lit "NAS"), none⟩),
          .unavailable (some ⟨some (.lit "uuid:1"), some (.lit "NAS"), none⟩)] ∧
      ∃ s, runFrom (eventStep Platform.offline) initServer
          [.unavailable (some ⟨some (.lit "uuid:1"), some (.lit "NAS"), none⟩)] =
          some s ∧
        run Platform.offline s
          (.available (some ⟨some (.lit "uuid:2"), some (.lit "PC"), none⟩)) =
          .error .waits := by
  refine ⟨fun h => ?_, _, rfl, rfl⟩
  obtain ⟨s, hs, hlisted⟩ := h _ List.prefix_rfl
  obtain rfl := Option.some.inj hs
  exact absurd (hlisted (.lit "uuid:1")) (by decide)

end Xupnp.MediaBrowser
