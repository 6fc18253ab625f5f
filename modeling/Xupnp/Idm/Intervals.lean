import Xupnp.Idm.Model

/-!
# The intervals a start configures

`start_discovery` scales the discovery interval of its caller's configuration
to milliseconds in place, and computes the pause of `verify_devices` in
microseconds, both in 32 bits. A configuration that is used for a second start
has been scaled already: `intervals_run_iff` says in which runs of starts and
stops each start configures what its caller asked for.
-/

namespace Xupnp.Idm

open Xupnp.Library Xupnp.XcalDevice

/-- The numbers of `discovery_config_t`. -/
structure DiscoveryConfig where
  port : UInt32
  discoveryInterval : UInt32
  lossDetectionWindow : UInt32
deriving DecidableEq

/-- Some mandatory value is missing. The test of `interface` is one of an
array, which is never `NULL`. -/
def DiscoveryConfig.missing (c : DiscoveryConfig) : Bool :=
  c.port = 0 || c.discoveryInterval = 0 || c.lossDetectionWindow = 0

/-- What a start meets on its way to the intervals. -/
structure Startup where
  reads : List AccountSource
  idmServerStart : ℤ
  contextError : Bool

/-- The caller's `*dc_obj`, the globals, and the calls of
`discovery_interval_configuration`, oldest first. -/
structure Session where
  config : DiscoveryConfig
  running : Bool
  restartTriggered : Bool
  sleepSeconds : UInt32
  configured : List (UInt32 × UInt32)
deriving DecidableEq

/-- The start gets as far as the intervals. Without `IDM_DEBUG` it waits for
the account id first, and goes on without a context. -/
def Startup.ready (idmDebug : Bool) (env : Startup) : Bool :=
  (idmDebug || (awaitAccountId .empty env.reads).isSome)
    && env.idmServerStart != 1 && !(idmDebug && env.contextError)

/-- `start_discovery` up to its main loop. -/
def Session.startDiscovery (idmDebug : Bool) (env : Startup) (s : Session) :
    Session :=
  if s.config.missing then s
  else if env.ready idmDebug then
    let interval := s.config.discoveryInterval * 1000
    { s with
      config := { s.config with discoveryInterval := interval }
      running := true
      sleepSeconds := (s.config.lossDetectionWindow + 8) * 1000000
      configured :=
        s.configured ++ [(interval, s.config.lossDetectionWindow)] }
  else s

/-- `stop_discovery` -/
def Session.stopDiscovery (s : Session) : Session :=
  if s.running then { s with running := false, restartTriggered := true }
  else s

/-- The calls of the client's user. -/
inductive UserCall where
  | start (env : Startup)
  | stop

/-- One call. -/
def sessionStep (idmDebug : Bool) (s : Session) : UserCall → Option Session
  | .start env => some (s.startDiscovery idmDebug env)
  | .stop => some s.stopDiscovery

/-- The call is a start that nothing outside keeps from the intervals. -/
def UserCall.starts (idmDebug : Bool) : UserCall → Bool
  | .start env => env.ready idmDebug
  | .stop => false

/-- A start that can configures the intervals `c` asks for: seconds as
milliseconds, and the pause, both as they are without wrap-around. -/
def ConfiguresIntervals (idmDebug : Bool) (c : DiscoveryConfig) (s : Session)
    (e : UserCall) : Prop :=
  e.starts idmDebug = true →
    ∀ s', sessionStep idmDebug s e = some s' →
      (∃ interval, s'.configured =
          s.configured ++ [(interval, c.lossDetectionWindow)] ∧
        interval.toNat = c.discoveryInterval.toNat * 1000) ∧
      s'.sleepSeconds.toNat = (c.lossDetectionWindow.toNat + 8) * 1000000

/-- The products fit into 32 bits. -/
def DiscoveryConfig.Fits (c : DiscoveryConfig) : Prop :=
  c.discoveryInterval.toNat * 1000 < 2 ^ 32 ∧
    (c.lossDetectionWindow.toNat + 8) * 1000000 < 2 ^ 32

section Steps

variable {idmDebug : Bool} {c : DiscoveryConfig} {s s' : Session}
  {e : UserCall} {es : List UserCall}

/-! ## One call -/

/-- A call that does not configure anything leaves the configuration alone. -/
theorem config_of_not_starts (he : e.starts idmDebug = false)
    (h : sessionStep idmDebug s e = some s') : s'.config = s.config := by
  cases e with
  | start env =>
      obtain rfl := Option.some.inj h
      have hready : ¬ env.ready idmDebug = true := Bool.eq_false_iff.mp he
      rw [Session.startDiscovery, if_neg hready]
      split <;> rfl
  | stop =>
      obtain rfl := Option.some.inj h
      rw [Session.stopDiscovery]
      split <;> rfl

theorem sessionStep_total (idmDebug : Bool) (s : Session) (e : UserCall) :
    ∃ s', sessionStep idmDebug s e = some s' := by
  cases e <;> exact ⟨_, rfl⟩

theorem configuresIntervals_of_not_starts (he : e.starts idmDebug = false) :
    ConfiguresIntervals idmDebug c s e := by
  intro h
  rw [he] at h
  cases h

/-- What a start configures. -/
theorem start_configured {env : Startup} (hready : env.ready idmDebug = true)
    (hacc : s.config.missing = false)
    (h : sessionStep idmDebug s (.start env) = some s') :
    s'.configured = s.configured ++
        [(s.config.discoveryInterval * 1000, s.config.lossDetectionWindow)] ∧
      s'.sleepSeconds = (s.config.lossDetectionWindow + 8) * 1000000 ∧
      s'.config = { s.config with
        discoveryInterval := s.config.discoveryInterval * 1000 } := by
  obtain rfl := Option.some.inj h
  rw [Session.startDiscovery, if_neg (by simp [hacc]), if_pos hready]
  exact ⟨rfl, rfl, rfl⟩

theorem missing_eq_false_iff : c.missing = false ↔
    c.port ≠ 0 ∧ c.discoveryInterval ≠ 0 ∧ c.lossDetectionWindow ≠ 0 := by
  simp [DiscoveryConfig.missing, and_assoc]

/-! ## The products -/

theorem interval_toNat (i : UInt32) :
    (i * 1000).toNat = i.toNat * 1000 % 2 ^ 32 := UInt32.toNat_mul i 1000

theorem sleep_toNat (w : UInt32) :
    ((w + 8) * 1000000).toNat = (w.toNat + 8) * 1000000 % 2 ^ 32 := by
  rw [UInt32.toNat_mul, UInt32.toNat_add]
  show (w.toNat + 8) % 2 ^ 32 * 1000000 % 2 ^ 32 = _
  rw [Nat.mod_mul_mod]

/-- A start is right where neither product wraps around. -/
theorem configuresIntervals_start_iff {env : Startup}
    (hready : env.ready idmDebug = true) (hacc : s.config.missing = false)
    (hwin : s.config.lossDetectionWindow = c.lossDetectionWindow) :
    ConfiguresIntervals idmDebug c s (.start env) ↔
      s.config.discoveryInterval.toNat * 1000 % 2 ^ 32 =
          c.discoveryInterval.toNat * 1000 ∧
        (c.lossDetectionWindow.toNat + 8) * 1000000 % 2 ^ 32 =
          (c.lossDetectionWindow.toNat + 8) * 1000000 := by
  obtain ⟨s', hs'⟩ : ∃ s', sessionStep idmDebug s (.start env) = some s' :=
    ⟨_, rfl⟩
  obtain ⟨hconf, hsleep, -⟩ := start_configured hready hacc hs'
  rw [hwin] at hconf hsleep
  rw [← interval_toNat, ← sleep_toNat, ← hsleep]
  constructor
  · intro h
    obtain ⟨⟨interval, heq, hint⟩, hpause⟩ := h hready s' hs'
    have hpair := List.append_cancel_left (hconf.symm.trans heq)
    have hi : s.config.discoveryInterval * 1000 = interval :=
      congrArg Prod.fst (List.singleton_injective hpair)
    exact ⟨hi ▸ hint, hpause⟩
  · rintro ⟨hint, hpause⟩ - s'' hs''
    obtain rfl := Option.some.inj (hs'.symm.trans hs'')
    exact ⟨⟨_, hconf, hint⟩, hpause⟩

/-- The first start of a configuration is right where the products fit. -/
theorem configuresIntervals_first_iff {env : Startup}
    (hready : env.ready idmDebug = true) (hc : s.config = c)
    (hacc : c.missing = false) :
    ConfiguresIntervals idmDebug c s (.start env) ↔ c.Fits := by
  subst hc
  rw [configuresIntervals_start_iff hready hacc rfl, DiscoveryConfig.Fits]
  omega

/-- Multiplying by 1000 once more never gives the same 32 bits. -/
theorem scaled_twice_ne {i : ℕ} (hpos : 0 < i) (hfits : i * 1000 < 2 ^ 32) :
    i * 1000 * 1000 % 2 ^ 32 ≠ i * 1000 := by
  omega

/-- A later start is never right: the interval has been scaled already. -/
theorem not_configuresIntervals_later {env : Startup}
    (hready : env.ready idmDebug = true)
    (hacc : c.missing = false) (hfits : c.Fits)
    (hc : s.config =
      { c with discoveryInterval := c.discoveryInterval * 1000 }) :
    ¬ ConfiguresIntervals idmDebug c s (.start env) := by
  obtain ⟨hport, hint, hwin⟩ := missing_eq_false_iff.mp hacc
  have hpos : 0 < c.discoveryInterval.toNat := by
    apply Nat.pos_of_ne_zero
    exact fun h => hint (UInt32.toNat_inj.mp h)
  have hscaled : (c.discoveryInterval * 1000).toNat =
      c.discoveryInterval.toNat * 1000 :=
    (interval_toNat _).trans (Nat.mod_eq_of_lt hfits.1)
  have hacc' : s.config.missing = false := by
    rw [missing_eq_false_iff, hc]
    refine ⟨hport, ?_, hwin⟩
    intro h
    have := congrArg UInt32.toNat h
    rw [hscaled] at this
    exact absurd this (by simp; omega)
  have hwin' : s.config.lossDetectionWindow = c.lossDetectionWindow := by
    rw [hc]
  rw [configuresIntervals_start_iff hready hacc' hwin', hc, hscaled]
  exact fun h => scaled_twice_ne hpos hfits.1 h.1

/-! ## Runs -/

/-- A configuration that has been scaled is good for no more starts. -/
theorem intervals_run_scaled (hacc : c.missing = false) (hfits : c.Fits)
    (hc : s.config =
      { c with discoveryInterval := c.discoveryInterval * 1000 }) :
    AllSteps (sessionStep idmDebug) (ConfiguresIntervals idmDebug c) s es ↔
      es.countP (·.starts idmDebug) = 0 := by
  induction es generalizing s with
  | nil => simp [AllSteps]
  | cons e es ih =>
      obtain ⟨s', hs'⟩ := sessionStep_total idmDebug s e
      rw [allSteps_cons_some hs', List.countP_cons]
      cases he : e.starts idmDebug with
      | true =>
          cases e with
          | stop => cases he
          | start env =>
              apply iff_of_false
              · exact fun h => not_configuresIntervals_later he hacc hfits hc h.1
              · simp
      | false =>
          rw [and_iff_right (configuresIntervals_of_not_starts he),
            ih ((config_of_not_starts he hs').trans hc)]
          simp

end Steps

/-- **Starting and stopping.** For an accepted configuration every start of a
run configures the intervals it asks for exactly if no start gets that far, or
one does and the products fit into 32 bits. -/
theorem intervals_run_iff (idmDebug : Bool) {c : DiscoveryConfig}
    {s : Session} (hc : s.config = c) (hacc : c.missing = false)
    (es : List UserCall) :
    AllSteps (sessionStep idmDebug) (ConfiguresIntervals idmDebug c) s es ↔
      es.countP (·.starts idmDebug) = 0 ∨
        (es.countP (·.starts idmDebug) = 1 ∧ c.Fits) := by
  induction es generalizing s with
  | nil => simp [AllSteps]
  | cons e es ih =>
      obtain ⟨s', hs'⟩ := sessionStep_total idmDebug s e
      rw [allSteps_cons_some hs', List.countP_cons]
      cases he : e.starts idmDebug with
      | true =>
          cases e with
          | stop => cases he
          | start env =>
              rw [configuresIntervals_first_iff he hc hacc]
              have hcfg := (start_configured he (hc.symm ▸ hacc) hs').2.2
              rw [hc] at hcfg
              constructor
              · rintro ⟨hfits, hrest⟩
                have := (intervals_run_scaled hacc hfits hcfg).mp hrest
                exact Or.inr ⟨by simp [this], hfits⟩
              · rintro (hzero | ⟨hone, hfits⟩)
                · simp at hzero
                · refine ⟨hfits, ?_⟩
                  apply (intervals_run_scaled hacc hfits hcfg).mpr
                  simpa using hone
      | false =>
          rw [and_iff_right (configuresIntervals_of_not_starts he),
            ih ((config_of_not_starts he hs').trans hc)]
          simp

/-- A minute between announcements, in a start without `IDM_DEBUG`. -/
def minuteConfig : DiscoveryConfig := ⟨50765, 60, 30⟩

def smoothStart : Startup := ⟨[.rfc (some (some (.lit "42")))], 0, false⟩

def startSession (c : DiscoveryConfig) : Session := ⟨c, false, false, 0, []⟩

/-- One start and one stop. -/
theorem intervals_run_once :
    AllSteps (sessionStep false) (ConfiguresIntervals false minuteConfig)
      (startSession minuteConfig) [.start smoothStart, .stop] := by
  apply (intervals_run_iff (s := startSession minuteConfig) false rfl
    (by decide) _).mpr
  exact Or.inr ⟨by decide, by decide, by decide⟩

/-- The second start configures the interval in microseconds. -/
theorem intervals_run_restart :
    (runFrom (sessionStep false) (startSession minuteConfig)
      [.start smoothStart, .stop, .start smoothStart]).map
        Session.configured = some [(60000, 30), (60000000, 30)] ∧
    ¬ AllSteps (sessionStep false) (ConfiguresIntervals false minuteConfig)
      (startSession minuteConfig)
      [.start smoothStart, .stop, .start smoothStart] := by
  refine ⟨by decide, fun h => ?_⟩
  obtain ⟨s, hs⟩ : ∃ s, runFrom (sessionStep false)
      (startSession minuteConfig) [.start smoothStart, .stop] = some s ∧
      s.configured = [(60000, 30)] ∧
      (s.startDiscovery false smoothStart).configured =
        [(60000, 30), (60000000, 30)] := ⟨_, rfl, by decide, by decide⟩
  obtain ⟨hrun, hbefore, hafter⟩ := hs
  have hstep := allSteps_iff.mp h [.start smoothStart, .stop] _ [] rfl s hrun
  obtain ⟨⟨interval, heq, hval⟩, -⟩ := hstep (by decide) _ rfl
  rw [hbefore, hafter] at heq
  obtain ⟨rfl, -⟩ : (60000000 : UInt32) = interval ∧
      30 = minuteConfig.lossDetectionWindow := by simpa using heq
  exact absurd hval (by decide)

end Xupnp.Idm
