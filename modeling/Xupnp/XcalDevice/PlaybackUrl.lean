import Xupnp.Library.Run
import Xupnp.XcalDevice.SysEvents

/-!
# What subscribers and callers are told of `PlaybackUrl`

A request for the playback URL is answered with `NULL` while the box cannot
tune. The event handler has a test of its own: with `rmfCrshSupp` it announces
the URL only when the box comes in tune, and without it on every change.
`playbackUrl_pushed_iff` says in which runs of events every announcement is
what a request would have been answered with.
-/

namespace Xupnp.XcalDevice

open Xupnp.Library

/-- The service has been started. -/
structure Started (s : XcalState) : Prop where
  ready : s.serviceReady = true
  url : ∃ ipAddressBuffer recvId,
    s.playbackurl = playbackUrlText ipAddressBuffer recvId

def sysStep (c : Copy) (cfg : XcalConfig) (s : XcalState) (e : SysEvent) :
    Option XcalState := some (s.sysEventHandler c cfg e)

/-- Whatever the step tells the subscribers is the answer to a request right
after it, whatever the buffer of the answer holds. -/
def PushMatchesPull (c : Copy) (cfg : XcalConfig) (s : XcalState)
    (e : SysEvent) : Prop :=
  ∀ s', sysStep c cfg s e = some s' →
    ∀ new, s'.values .playbackUrl = s.values .playbackUrl ++ new →
      ∀ v ∈ new, ∀ playBackUrl, v = s'.getPlaybackUrlCb c playBackUrl

/-! ## Which events are announced, and which are served -/

/-- The last state reported. -/
def tuneStep (t : ℤ) (e : SysEvent) : Option ℤ :=
  some (if e.stateId = .tuneReady then e.data.state else t)

/-- The handler announces the URL: the state changes, and with `rmfCrshSupp`
to `TRUE`. -/
def Announced (cfg : XcalConfig) (t : ℤ) (e : SysEvent) : Prop :=
  e.stateId = .tuneReady ∧ t ≠ e.data.state ∧
    (cfg.rmfCrshSupp = true → e.data.state = 1)

instance (cfg : XcalConfig) (t : ℤ) (e : SysEvent) :
    Decidable (Announced cfg t e) := inferInstanceAs (Decidable (_ ∧ _ ∧ _))

/-- In this state a request is answered with the URL. -/
def Copy.Serves (c : Copy) (url : CStr) (state : ℤ) : Prop :=
  match c with
  | .videoLibrary => state % 256 ≠ 0 ∧ url.bytes.length < urlSize
  | .xcalDevice => state = 1

section Steps

variable {c : Copy} {cfg : XcalConfig} {s s' : XcalState} {e : SysEvent}

theorem playbackUrlText_head (ip recvId : CStr) :
    (playbackUrlText ip recvId).bytes.head? = some 0x68 := by
  have hlit : (CStr.lit "http://").bytes =
      0x68 :: CStr.ascii "ttp://" := by decide
  simp [playbackUrlText, hlit]

theorem Started.url_ne (hs : Started s) :
    s.playbackurl ≠ .lit "NULL" ∧ s.playbackurl ≠ .empty := by
  obtain ⟨ip, recvId, hurl⟩ := hs.url
  have hhead := playbackUrlText_head ip recvId
  rw [← hurl] at hhead
  constructor
  · intro h
    rw [h] at hhead
    exact absurd hhead (by decide)
  · intro h
    rw [h] at hhead
    exact absurd hhead (by decide)

/-- The answer is the URL exactly in the states that serve it. -/
theorem getPlaybackUrlCb_eq_iff (hs : Started s) :
    (∀ playBackUrl, s.playbackurl = s.getPlaybackUrlCb c playBackUrl) ↔
      c.Serves s.playbackurl s.tuneReady := by
  obtain ⟨hnull, hempty⟩ := hs.url_ne
  cases c with
  | videoLibrary =>
      have hcb : ∀ playBackUrl, s.getPlaybackUrlCb .videoLibrary playBackUrl =
          if s.tuneReady % 256 ≠ 0 then strcpied urlSize s.playbackurl
          else .lit "NULL" := by
        intro playBackUrl
        show (if decide _ = true then if _ then _ else _ else _) = _
        rw [if_neg hempty]
        simp only [decide_eq_true_eq]
      simp only [hcb, Copy.Serves]
      by_cases hready : s.tuneReady % 256 = 0
      · rw [if_neg (not_not.mpr hready)]
        exact iff_of_false (fun h => hnull (h .empty)) fun h => h.1 hready
      · rw [if_pos hready]
        by_cases hlen : s.playbackurl.bytes.length < urlSize
        · rw [strcpied_of_lt hlen]
          exact iff_of_true (fun _ => rfl) ⟨hready, hlen⟩
        · rw [strcpied_of_not_lt hlen]
          exact iff_of_false (fun h => hempty (h .empty)) fun h => hlen h.2
  | xcalDevice =>
      simp only [XcalState.getPlaybackUrlCb, Copy.Serves]
      by_cases hready : s.tuneReady = 1
      · rw [if_pos hready]
        exact iff_of_true (fun _ => rfl) hready
      · rw [if_neg hready]
        exact iff_of_false (fun h => hnull (h .empty)) hready

/-- An announcement tells the URL, and leaves the tuning alone. -/
theorem announceTuning_spec (cfg : XcalConfig) (diagFile : Option CStr)
    (hready : s.serviceReady = true) :
    (s.announceTuning cfg diagFile).tuneReady = s.tuneReady ∧
      (s.announceTuning cfg diagFile).playbackurl = s.playbackurl ∧
      (s.announceTuning cfg diagFile).serviceReady = true ∧
      (s.announceTuning cfg diagFile).values .playbackUrl =
        s.values .playbackUrl ++ [s.playbackurl] := by
  unfold XcalState.announceTuning
  dsimp only
  have hsame : SameTuning s (if cfg.useGliDiag then s
      else s.publishSystemIds (cfg.idConfig diagFile)) := by
    split
    · exact SameTuning.refl s
    · exact sameTuning_publishSystemIds _ s
  generalize (if cfg.useGliDiag then s
    else s.publishSystemIds (cfg.idConfig diagFile)) = t at hsame ⊢
  have hready' : t.serviceReady = true := hsame.serviceReady.trans hready
  refine ⟨?_, ?_, ?_, ?_⟩
  · rw [notify_tuneReady, hsame.tuneReady]
  · rw [notify_playbackurl, hsame.playbackurl]
  · rw [notify_serviceReady, hready']
  · rw [values_notify_of_ready hready', if_pos rfl, hsame.values,
      hsame.playbackurl]

/-- **One event.** The state follows the reports, and the URL is announced as
`Announced` says. -/
theorem sysStep_tuning (hs : Started s) (h : sysStep c cfg s e = some s') :
    Started s' ∧ s'.playbackurl = s.playbackurl ∧
      tuneStep s.tuneReady e = some s'.tuneReady ∧
      s'.values .playbackUrl = s.values .playbackUrl ++
        if Announced cfg s.tuneReady e then [s.playbackurl] else [] := by
  obtain rfl := Option.some.inj h
  by_cases hid : e.stateId = .tuneReady
  · have hstep : s.sysEventHandler c cfg e = s.tuneReadyEvent cfg e := by
      rw [XcalState.sysEventHandler, hid]
    rw [hstep, tuneStep, if_pos hid]
    by_cases hsame : s.tuneReady = e.data.state
    · rw [XcalState.tuneReadyEvent, if_neg (not_not.mpr hsame),
        if_neg fun h => h.2.1 hsame, List.append_nil, hsame]
      exact ⟨hs, rfl, rfl, rfl⟩
    · obtain ⟨htune, hurl, hready, hvalues⟩ := announceTuning_spec
        (s := { s with tuneReady := e.data.state }) cfg e.diagFile hs.ready
      rw [XcalState.tuneReadyEvent, if_pos hsame]
      dsimp only
      by_cases hann : cfg.rmfCrshSupp = true → e.data.state = 1
      · have htells : (if cfg.rmfCrshSupp = true then
            if e.data.state = 1 then XcalState.announceTuning cfg e.diagFile
              { s with tuneReady := e.data.state }
            else { s with tuneReady := e.data.state }
          else XcalState.announceTuning cfg e.diagFile
            { s with tuneReady := e.data.state }) =
            XcalState.announceTuning cfg e.diagFile
              { s with tuneReady := e.data.state } := by
          split
          · next hrmf => rw [if_pos (hann hrmf)]
          · rfl
        rw [htells, htune, hvalues, if_pos ⟨hid, hsame, hann⟩]
        refine ⟨⟨hready, ?_⟩, hurl, rfl, rfl⟩
        rw [hurl]
        exact hs.url
      · obtain ⟨hrmf, hstate⟩ := Classical.not_imp.mp hann
        rw [if_pos hrmf, if_neg hstate, if_neg fun h => hann h.2.2,
          List.append_nil]
        exact ⟨⟨hs.ready, hs.url⟩, rfl, rfl, rfl⟩
  · have hsame := sameTuning_of_ne c cfg s hid
    rw [tuneStep, if_neg hid, if_neg fun h => hid h.1, List.append_nil]
    refine ⟨⟨hsame.serviceReady.trans hs.ready, ?_⟩, hsame.playbackurl,
      congrArg some hsame.tuneReady.symm, hsame.values⟩
    rw [hsame.playbackurl]
    exact hs.url

/-- One event, as a condition on the last state reported. -/
theorem pushMatchesPull_iff (hs : Started s) :
    PushMatchesPull c cfg s e ↔
      (Announced cfg s.tuneReady e →
        c.Serves s.playbackurl e.data.state) := by
  obtain ⟨s', hs'⟩ : ∃ s', sysStep c cfg s e = some s' := ⟨_, rfl⟩
  obtain ⟨hstarted, hurl, htune, hvalues⟩ := sysStep_tuning hs hs'
  by_cases hann : Announced cfg s.tuneReady e
  · rw [if_pos hann] at hvalues
    rw [tuneStep, if_pos hann.1] at htune
    have hserves := getPlaybackUrlCb_eq_iff (c := c) hstarted
    rw [hurl, ← Option.some.inj htune] at hserves
    rw [forall_prop_of_true hann, ← hserves]
    constructor
    · intro h playBackUrl
      exact h s' hs' _ hvalues _ (List.mem_singleton.mpr rfl) playBackUrl
    · intro h t ht new hnew v hv playBackUrl
      obtain rfl := Option.some.inj (hs'.symm.trans ht)
      obtain rfl := List.append_cancel_left (hvalues.symm.trans hnew)
      rw [List.mem_singleton.mp hv]
      exact h playBackUrl
  · rw [if_neg hann] at hvalues
    refine iff_of_true ?_ fun h => absurd h hann
    intro t ht new hnew v hv
    obtain rfl := Option.some.inj (hs'.symm.trans ht)
    obtain rfl := List.append_cancel_left (hvalues.symm.trans hnew)
    cases hv

end Steps

/-- **Announcements and answers.** Along a run of events after the start,
every announcement of the playback URL is what a request would be answered with
exactly if every announced change of tuning is to a state that serves it. -/
theorem playbackUrl_pushed_iff (c : Copy) (cfg : XcalConfig) {s : XcalState}
    (hs : Started s) (es : List SysEvent) :
    AllSteps (sysStep c cfg) (PushMatchesPull c cfg) s es ↔
      AllSteps tuneStep
        (fun t e => Announced cfg t e → c.Serves s.playbackurl e.data.state)
        s.tuneReady es := by
  generalize hurl : s.playbackurl = url
  induction es generalizing s with
  | nil => exact iff_of_true trivial trivial
  | cons e es ih =>
      obtain ⟨s', hs'⟩ : ∃ s', sysStep c cfg s e = some s' := ⟨_, rfl⟩
      obtain ⟨hstarted, hurl', htune, -⟩ := sysStep_tuning hs hs'
      rw [allSteps_cons_some hs', allSteps_cons_some htune,
        pushMatchesPull_iff hs, hurl, ih hstarted (hurl'.trans hurl)]

def tuneReport (state : ℤ) : SysEvent :=
  ⟨.tuneReady, ⟨false, state, .empty⟩, none⟩

/-- Out of tune and back, with `rmfCrshSupp`. -/
theorem playbackUrl_pushed_crash_supported :
    AllSteps (sysStep .videoLibrary ⟨true, true, false, 0xFFFFFFFF⟩)
      (PushMatchesPull .videoLibrary ⟨true, true, false, 0xFFFFFFFF⟩) inTune
      [tuneReport 0, tuneReport 1] := by
  have hs : Started inTune := ⟨rfl, _, _, rfl⟩
  apply (playbackUrl_pushed_iff .videoLibrary _ hs _).mpr
  refine ⟨fun h => absurd (h.2.2 rfl) (by decide), ?_⟩
  intro t ht
  obtain rfl := Option.some.inj ht
  refine ⟨fun _ => ?_, fun _ _ => trivial⟩
  show (1 : ℤ) % 256 ≠ 0 ∧ inTune.playbackurl.bytes.length < urlSize
  decide

/-- Out of tune without it: the subscribers are told the URL, and a request is
answered with `NULL`. -/
theorem playbackUrl_pushed_out_of_tune :
    Started inTune ∧
      (inTune.sysEventHandler .videoLibrary ⟨false, true, false, 0xFFFFFFFF⟩
        (tuneReport 0)).values .playbackUrl = [inTune.playbackurl] ∧
      ¬ PushMatchesPull .videoLibrary ⟨false, true, false, 0xFFFFFFFF⟩ inTune
        (tuneReport 0) := by
  have hvalues : (inTune.sysEventHandler .videoLibrary
      ⟨false, true, false, 0xFFFFFFFF⟩ (tuneReport 0)).values .playbackUrl =
        [inTune.playbackurl] := by decide
  refine ⟨⟨rfl, _, _, rfl⟩, hvalues, fun h => ?_⟩
  have hpull := h _ rfl [inTune.playbackurl] hvalues _
    (List.mem_singleton.mpr rfl) .empty
  exact absurd hpull (by decide)

end Xupnp.XcalDevice
