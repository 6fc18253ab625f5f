import Xupnp.Discovery.Scan

/-!
# Which control point a device was added through

The four control points share one list. `Sources` remembers who added a listed
device and who reports it available at present; the daemon remembers neither,
and a device that goes away at one control point is deleted whoever added it.
`noLoss_run_iff` says exactly which events delete a device that another control
point added and still has.
-/

namespace Xupnp.Discovery

open Xupnp.Library Xupnp.WhiteList

/-- Who added the device of a serial number, and who has it now. -/
structure Sources where
  addedBy : CStr → Option ControlPoint
  present : ControlPoint → CStr → Bool

def Sources.none : Sources := ⟨fun _ => .none, fun _ _ => false⟩

/-- Keep the record up to date over one callback. -/
def noteSources (s : XState) (e : Event) (s' : XState) (c : Sources) :
    Sources :=
  match e.notice with
  | .available cp p =>
      match p.serialNumber with
      | some sno =>
          { addedBy :=
              if ¬ Listed s sno.strip ∧ Listed s' sno.strip then
                Function.update c.addedBy sno.strip (some cp)
              else c.addedBy
            present := fun cp' k =>
              if cp' = cp ∧ k = sno.strip then true else c.present cp' k }
      | .none => c
  | .unavailable cp sno =>
      { c with
        present := fun cp' k =>
          if cp' = cp ∧ some k = sno.map CStr.strip then false
          else c.present cp' k }
  | .lastChange _ _ _ => c

/-- A control point other than `cp` added the device, and still has it. -/
def HeldByOther (c : Sources) (cp : ControlPoint) (k : CStr) : Prop :=
  ∃ cp', cp' ≠ cp ∧ c.addedBy k = some cp' ∧ c.present cp' k = true

/-- A device that goes at one control point is not taken from another: what
another one added and still has is there when the callback returns. -/
def NoLoss (cfg : Settings) (x : XState × Sources) (e : Event) : Prop :=
  ∀ cp sno, e.notice = .unavailable cp sno →
    ∀ k, Listed x.1 k → HeldByOther x.2 cp k →
      ∃ s', step cfg x.1 e = some s' ∧ Listed s' k

/-! ## When a device is deleted -/

/-- The control points whose callback probes a gateway before it deletes it. -/
def Probes (cp : ControlPoint) : Prop :=
  cp = .basicDevice ∨ cp = .x1VideoGateway

/-- A gateway whose playback URL answers, or is refused by `strcpy_s`, so that
nothing is asked and nothing deleted. -/
def StaysReachable (io : Io) (d : GwyDeviceData) : Prop :=
  d.isgateway = true ∧
    (outPlayUrlSize ≤ d.playbackurl.strip.bytes.length ∨
      d.playbackurl.strip.bytes.length ≤ maxPlayUrl ∧
        io.soupStatusFromUrl (d.playbackurl.strip ++ liveSuffix) = true)

/-- A gateway whose playback URL goes into the buffer of the callback, but not
with what is appended to it. -/
def Overflows (d : GwyDeviceData) : Prop :=
  d.isgateway = true ∧ maxPlayUrl < d.playbackurl.strip.bytes.length ∧
    d.playbackurl.strip.bytes.length < outPlayUrlSize

/-- The event takes nobody else's device. It is about the daemon's own device,
or an unlisted one. Otherwise, if another control point added a device and has
it, probing does not write behind the buffer, and if that device is the one
that goes, it is probed and stays. -/
def SparesOthers (x : XState × Sources) (e : Event) : Prop :=
  ∀ cp sno, e.notice = .unavailable cp (some sno) →
    sno ≠ x.1.ownSerialNo.strip →
    ∀ d ∈ x.1.xdevlist, d.key = sno.strip →
    ∀ k, Listed x.1 k → HeldByOther x.2 cp k →
      ¬ (Probes cp ∧ Overflows d) ∧
        (k = d.key → Probes cp ∧ StaysReachable e.io d)

section Scan

variable {cfg : Settings} {s s' : XState} {e : Event} {sno : Option CStr}

/-- The record of a serial number is the one a search finds. -/
theorem find_hasSno {d : GwyDeviceData} {n : CStr}
    (hs : s.xdevlist.Pairwise fun a b => a.key < b.key)
    (hd : d ∈ s.xdevlist) (hk : d.key = n.strip) :
    s.xdevlist.find? (hasSno (some n)) = some d := by
  have hhit : hasSno (some n) d = true := by simp [hasSno, hk]
  have hsome : (s.xdevlist.find? (hasSno (some n))).isSome :=
    List.find?_isSome.mpr ⟨d, hd, hhit⟩
  obtain ⟨c, hc⟩ := Option.isSome_iff_exists.mp hsome
  have hckey : c.key = n.strip := (Option.some.inj (key_of_hasSno hc).1).symm
  have hnodup : (s.xdevlist.map GwyDeviceData.key).Nodup :=
    List.pairwise_map.mpr (hs.imp ne_of_lt)
  rw [hc, List.inj_on_of_nodup_map hnodup (List.mem_of_find?_eq_some hc) hd
    (hckey.trans hk.symm)]

theorem copyPlayUrl_ne_empty {d : GwyDeviceData} {url : CStr}
    (h : copyPlayUrl d = some (some url)) : url ≠ .empty := by
  rintro rfl
  rw [copyPlayUrl] at h
  split at h
  · cases h
  split at h
  · cases h
  · have hbytes := congrArg CStr.bytes (Option.some.inj (Option.some.inj h))
    rw [CStr.bytes_append] at hbytes
    exact absurd (List.append_eq_nil_iff.mp hbytes).2 (by decide)

theorem copyPlayUrl_eq_none_iff (d : GwyDeviceData) :
    copyPlayUrl d = none ↔ maxPlayUrl < d.playbackurl.strip.bytes.length ∧
      d.playbackurl.strip.bytes.length < outPlayUrlSize := by
  rw [copyPlayUrl_eq]
  split
  · next h => simp [Nat.not_lt.mpr h]
  · next h =>
      split
      · next hover => simp [hover, Nat.not_le.mp h]
      · next hover => simp [hover]

/-- The probing callback returns, unless it writes behind its buffer. -/
theorem deviceProxyUnavailableCb_eq_none_iff (cfg : Settings) (io : Io)
    (hs : s.xdevlist.Pairwise fun a b => a.key < b.key) (sno : Option CStr) :
    deviceProxyUnavailableCb cfg io sno s = none ↔
      sno ≠ some s.ownSerialNo.strip ∧
        ∃ d, s.xdevlist.find? (hasSno sno) = some d ∧ Overflows d := by
  have hscan := checkDeviceExists_found sno (hs.imp le_of_lt)
  have hcheck : checkDeviceExists sno s.xdevlist = none ↔
      ∃ d, s.xdevlist.find? (hasSno sno) = some d ∧ Overflows d := by
    rw [← Option.map_eq_none_iff (f := Prod.snd), hscan]
    cases s.xdevlist.find? (hasSno sno) with
    | none => simp
    | some d =>
        dsimp only
        cases hgw : d.isgateway with
        | false => simp [Overflows, hgw]
        | true => simp [Overflows, hgw, copyPlayUrl_eq_none_iff]
  rw [← hcheck]
  unfold deviceProxyUnavailableCb
  dsimp only
  by_cases hown : sno = some s.ownSerialNo.strip
  · simp [hown]
  · rw [if_neg hown]
    cases checkDeviceExists sno s.xdevlist with
    | none => simp [hown]
    | some r =>
        obtain ⟨ds, found⟩ := r
        cases found with
        | none => simp
        | some url =>
            dsimp only
            split <;> simp

/-- A callback about a device that goes returns, unless it probes and writes
behind its buffer. -/
theorem step_unavailable_eq_none_iff (cfg : Settings) {cp : ControlPoint}
    (hs : s.xdevlist.Pairwise fun a b => a.key < b.key)
    (hnotice : e.notice = .unavailable cp sno) :
    step cfg s e = none ↔ Probes cp ∧ sno ≠ some s.ownSerialNo.strip ∧
      ∃ d, s.xdevlist.find? (hasSno sno) = some d ∧ Overflows d := by
  have hprobe := deviceProxyUnavailableCb_eq_none_iff cfg e.io hs sno
  have hplain : deviceProxyUnavailableCbClient cfg e.io sno s ≠ none := by
    unfold deviceProxyUnavailableCbClient
    dsimp only
    split <;> simp
  rw [step, hnotice]
  cases cp with
  | basicDevice | x1VideoGateway => simpa [Probes] using hprobe
  | x1Renderer | x1BroadbandGateway => simpa [Probes] using hplain

/-- The probing callback on a listed device: the device stays if it is
reachable, and is deleted if it is not. -/
theorem deviceProxyUnavailableCb_cases (cfg : Settings) (io : Io)
    {d : GwyDeviceData} {n : CStr}
    (hs : s.xdevlist.Pairwise fun a b => a.key < b.key)
    (hown : n ≠ s.ownSerialNo.strip) (hd : d ∈ s.xdevlist)
    (hk : d.key = n.strip) {s' : XState}
    (h : deviceProxyUnavailableCb cfg io (some n) s = some s') :
    (StaysReachable io d ∧ s'.xdevlist.map GwyDeviceData.normal =
        s.xdevlist.map GwyDeviceData.normal) ∨
      (¬ StaysReachable io d ∧
        ∃ s₀, s₀.xdevlist.map GwyDeviceData.normal =
            s.xdevlist.map GwyDeviceData.normal ∧
          s' = deleteAndPublish cfg io (some n) s₀) := by
  have hscan := checkDeviceExists_found (some n) (hs.imp le_of_lt)
  rw [find_hasSno hs hd hk] at hscan
  dsimp only at hscan
  unfold deviceProxyUnavailableCb at h
  dsimp only at h
  rw [if_neg (by simpa using hown)] at h
  cases hcheck : checkDeviceExists (some n) s.xdevlist with
  | none =>
      rw [hcheck] at h
      cases h
  | some r =>
      obtain ⟨ds, found⟩ := r
      have hlist := checkDeviceExists_list hcheck
      rw [hcheck] at hscan h
      by_cases hgw : d.isgateway = true
      · rw [if_pos hgw, copyPlayUrl_eq] at hscan
        split at hscan
        · -- `strcpy_s` refuses the URL.
          next hlong =>
            obtain rfl := Option.some.inj hscan
            obtain rfl := Option.some.inj h
            exact Or.inl ⟨⟨hgw, Or.inl hlong⟩, hlist⟩
        next hlong =>
        split at hscan
        · cases hscan
        next hfits =>
        obtain rfl := Option.some.inj hscan
        have hcopy : copyPlayUrl d =
            some (some (d.playbackurl.strip ++ liveSuffix)) := by
          rw [copyPlayUrl_eq, if_neg hlong, if_neg hfits]
        have hne := copyPlayUrl_ne_empty hcopy
        dsimp only at h
        by_cases hup :
            io.soupStatusFromUrl (d.playbackurl.strip ++ liveSuffix) = true
        · rw [if_pos ⟨hne, hup⟩] at h
          obtain rfl := Option.some.inj h
          exact Or.inl ⟨⟨hgw, Or.inr ⟨Nat.not_lt.mp hfits, hup⟩⟩, hlist⟩
        · rw [if_neg fun h => hup h.2] at h
          obtain rfl := Option.some.inj h
          refine Or.inr ⟨?_, _, hlist, rfl⟩
          rintro ⟨-, hrefused | ⟨-, hanswers⟩⟩
          · exact hlong hrefused
          · exact hup hanswers
      · rw [if_neg hgw] at hscan
        obtain rfl := Option.some.inj hscan
        dsimp only at h
        rw [if_neg fun h => h.1 rfl] at h
        obtain rfl := Option.some.inj h
        exact Or.inr ⟨fun hstays => hgw hstays.1, _, hlist, rfl⟩

/-- Deleting takes out the serial number it is given, and no other. -/
theorem listed_deleteAndPublish (io : Io)
    (hs : s.xdevlist.Pairwise fun a b => a.key < b.key) (k : CStr) :
    Listed (deleteAndPublish cfg io sno s) k ↔
      Listed s k ∧ some k ≠ sno.map CStr.strip := by
  rw [← listed_deleteGwyitem cfg io hs]
  exact listed_of_normal (deleteAndPublish_normal cfg io sno s)

/-- **A listed device goes at one control point.** It is listed still exactly
if it is probed and reachable. -/
theorem listed_unavailable_iff (cfg : Settings) {cp : ControlPoint} {n : CStr}
    {d : GwyDeviceData} (hs : s.xdevlist.Pairwise fun a b => a.key < b.key)
    (hnotice : e.notice = .unavailable cp (some n))
    (hown : n ≠ s.ownSerialNo.strip) (hd : d ∈ s.xdevlist)
    (hk : d.key = n.strip) (h : step cfg s e = some s') :
    Listed s' d.key ↔ Probes cp ∧ StaysReachable e.io d := by
  have hlisted : Listed s d.key := List.mem_map_of_mem hd
  have hgone : ∀ s₀, s₀.xdevlist.map GwyDeviceData.normal =
      s.xdevlist.map GwyDeviceData.normal →
      ¬ Listed (deleteAndPublish cfg e.io (some n) s₀) d.key := by
    intro s₀ hs₀ hl
    have hsorted₀ := Lists.sorted_of_map_eq hs hs₀
    exact ((listed_deleteAndPublish e.io hsorted₀ d.key).mp hl).2
      (by rw [hk]; rfl)
  have hprobe : deviceProxyUnavailableCb cfg e.io (some n) s = some s' →
      Probes cp → (Listed s' d.key ↔ Probes cp ∧ StaysReachable e.io d) := by
    intro hstep hcp
    rcases deviceProxyUnavailableCb_cases cfg e.io hs hown hd hk hstep with
      ⟨hstays, hkept⟩ | ⟨hstays, s₀, hs₀, rfl⟩
    · exact iff_of_true ((listed_of_normal hkept).mpr hlisted) ⟨hcp, hstays⟩
    · exact iff_of_false (hgone s₀ hs₀) fun h => hstays h.2
  have hplain : deviceProxyUnavailableCbClient cfg e.io (some n) s = some s' →
      ¬ Probes cp →
      (Listed s' d.key ↔ Probes cp ∧ StaysReachable e.io d) := by
    intro hstep hcp
    rw [deviceProxyUnavailableCbClient, if_neg (by simpa using hown)] at hstep
    obtain rfl := Option.some.inj hstep
    refine iff_of_false ?_ fun h => hcp h.1
    exact hgone { s with ownSerialNo := s.ownSerialNo.strip } rfl
  rw [step, hnotice] at h
  cases cp with
  | basicDevice | x1VideoGateway => exact hprobe h (by simp [Probes])
  | x1Renderer | x1BroadbandGateway => exact hplain h (by simp [Probes])

/-- The daemon's own device is never deleted. -/
theorem listed_unavailable_own {cp : ControlPoint}
    (hnotice : e.notice = .unavailable cp (some s.ownSerialNo.strip))
    (h : step cfg s e = some s') (k : CStr) : Listed s' k ↔ Listed s k := by
  have hlist : s' = { s with ownSerialNo := s.ownSerialNo.strip } := by
    rw [step, hnotice] at h
    cases cp <;>
      simp only [deviceProxyUnavailableCb, deviceProxyUnavailableCbClient,
        if_true, Option.some.injEq] at h <;> exact h.symm
  subst hlist
  exact Iff.rfl

/-- Other devices are not deleted. -/
theorem listed_unavailable_ne {cp : ControlPoint}
    (hs : s.xdevlist.Pairwise fun a b => a.key < b.key)
    (hnotice : e.notice = .unavailable cp sno) (h : step cfg s e = some s')
    {k : CStr} (hk : some k ≠ sno.map CStr.strip) (hl : Listed s k) :
    Listed s' k := by
  cases step_cases h with
  | kept same =>
      rw [Listed, map_key_of_ids same]
      exact hl
  | added cp' p sno' id d s₀ notice =>
      rw [hnotice] at notice
      cases notice
  | dropped cp' sno' s₀ notice before after =>
      rw [hnotice] at notice
      obtain ⟨rfl, rfl⟩ := Notice.unavailable.inj notice
      subst after
      refine (listed_deleteAndPublish e.io
        (Lists.sorted_of_map_eq hs before) k).mpr ⟨?_, hk⟩
      exact (listed_of_normal before).mpr hl

end Scan

/-- One event, in a list in order. -/
theorem noLoss_iff {cfg : Settings} {x : XState × Sources} {e : Event}
    (hs : x.1.xdevlist.Pairwise fun a b => a.key < b.key) :
    NoLoss cfg x e ↔ SparesOthers x e := by
  constructor
  · intro h cp n hnotice hown d hd hk k hl hheld
    obtain ⟨s', hstep, hl'⟩ := h cp (some n) hnotice k hl hheld
    constructor
    · rintro ⟨hcp, hover⟩
      have hnone := (step_unavailable_eq_none_iff cfg hs hnotice).mpr
        ⟨hcp, by simpa using hown, d, find_hasSno hs hd hk, hover⟩
      rw [hstep] at hnone
      cases hnone
    · rintro rfl
      exact (listed_unavailable_iff cfg hs hnotice hown hd hk hstep).mp hl'
  · intro h cp sno hnotice k hl hheld
    -- The callback returns.
    have hreturns : step cfg x.1 e ≠ none := by
      intro hnone
      obtain ⟨hcp, hown, d, hfind, hover⟩ :=
        (step_unavailable_eq_none_iff cfg hs hnotice).mp hnone
      obtain ⟨n, rfl, hk⟩ := Option.map_eq_some_iff.mp (key_of_hasSno hfind).1
      have hd := List.mem_of_find?_eq_some hfind
      exact (h cp n hnotice (by simpa using hown) d hd hk.symm k hl hheld).1
        ⟨hcp, hover⟩
    obtain ⟨s', hstep⟩ := Option.ne_none_iff_exists'.mp hreturns
    refine ⟨s', hstep, ?_⟩
    by_cases hk : some k = sno.map CStr.strip
    · obtain ⟨n, rfl, rfl⟩ := Option.map_eq_some_iff.mp hk.symm
      by_cases hown : n = x.1.ownSerialNo.strip
      · rw [hown] at hnotice
        exact (listed_unavailable_own hnotice hstep _).mpr hl
      · obtain ⟨d, hd, hdk⟩ := List.mem_map.mp hl
        rw [← hdk] at hl hheld ⊢
        exact (listed_unavailable_iff cfg hs hnotice hown hd hdk hstep).mpr
          ((h cp n hnotice hown d hd hdk _ hl hheld).2 rfl)
    · exact listed_unavailable_ne hs hnotice hstep hk hl

/-- **Who may take a device off the list.** Along a run of callbacks every
device that another control point added and still has outlasts an event of one
control point, exactly when every event spares the others' devices. -/
theorem noLoss_run_iff (cfg : Settings) (n : Option CStr) (es : List Event) :
    AllSteps (withHistory (step cfg) noteSources) (NoLoss cfg)
        (startState n, Sources.none) es ↔
      AllSteps (withHistory (step cfg) noteSources) SparesOthers
        (startState n, Sources.none) es := by
  refine allSteps_congr
    (I := fun x => x.1.xdevlist.Pairwise fun a b => a.key < b.key)
    (fun x e y hx hy => ?_) (fun x e hx => noLoss_iff hx) List.Pairwise.nil
  exact step_sorted hx (withHistory_eq_some.mp hy).1

/-- A renderer is announced as such and, with the UPC 10000 that keeps the
first control point from adding it, as a basic device. -/
def announced : List Event :=
  [⟨quietIo, .available .x1Renderer (echoDevice "A" "XI3")⟩,
    ⟨quietIo, .available .basicDevice
      { echoDevice "A" "XI3" with upc := some (.lit "10000") }⟩]

/-- The basic device goes, and the renderer is deleted. -/
theorem noLoss_run_fails :
    ¬ AllSteps (withHistory (step broadbandSettings) noteSources)
      (NoLoss broadbandSettings) (startState none, Sources.none)
      (announced ++ [⟨quietIo, .unavailable .basicDevice (some (.lit "A"))⟩])
    := by
  have hrun : (runFrom (withHistory (step broadbandSettings) noteSources)
      (startState none, Sources.none) announced).map (fun x =>
        (decide (Listed x.1 (.lit "A")), x.2.addedBy (.lit "A"),
          x.2.present .x1Renderer (.lit "A"),
          (step broadbandSettings x.1 ⟨quietIo,
            .unavailable .basicDevice (some (.lit "A"))⟩).map
              fun s' => decide (Listed s' (.lit "A")))) =
      some (true, some .x1Renderer, true, some false) := by decide
  obtain ⟨x, hx, hfacts⟩ := Option.map_eq_some_iff.mp hrun
  simp only [Prod.mk.injEq, decide_eq_true_eq, Option.map_eq_some_iff,
    decide_eq_false_iff_not] at hfacts
  obtain ⟨hlisted, haddedBy, hpresent, s', hs', hgone⟩ := hfacts
  intro h
  obtain ⟨s'', hs'', hstays⟩ := allSteps_iff.mp h announced _ [] rfl x hx
    .basicDevice _ rfl (.lit "A") hlisted
    ⟨.x1Renderer, by decide, haddedBy, hpresent⟩
  obtain rfl := Option.some.inj (hs'.symm.trans hs'')
  exact hgone hstays

end Xupnp.Discovery
