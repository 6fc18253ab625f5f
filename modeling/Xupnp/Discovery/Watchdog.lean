import Xupnp.Discovery.Device

/-!
# The thread that looks after the discovery (`verify_devices`)

Beside the main loop runs a thread that has the network scanned again and
again. While the daemon has not found the device it runs on, it counts, and at
last it exits for the daemon to be started again, leaving a file behind so as
to do so only once. After a partial discovery it turns the resource browser off
and on. Each step here is one access to what it shares with the main loop, which
may do anything in between. `watchdog_run` holds of every interleaving, over any
number of processes.
-/

namespace Xupnp.Discovery

open Xupnp.Library

/-! ## The code -/

/-- Where the thread is: what it does next. -/
inductive WatchPc where
  /-- `if(deviceAddNo)` -/
  | deviceAddNo
  /-- `!selfDeviceDiscovered` -/
  | selfDevice
  /-- `access(RESTART_XDISCOVERY_FILE, F_OK) == -1`, and the counter -/
  | access
  /-- `fopen(RESTART_XDISCOVERY_FILE, "w")` -/
  | fopen
  /-- After `exit(1)`. -/
  | exited
  /-- `partialDiscovery` -/
  | partialDiscovery
  /-- `!gatewayDetected`, and the counter -/
  | gatewayDetected
  /-- `gssdp_resource_browser_set_active(…, FALSE)` -/
  | setInactive
  /-- `partialDiscovery=FALSE` -/
  | clearPartial
  /-- `gssdp_resource_browser_set_active(…, TRUE)`, and the counter -/
  | setActive
  /-- `gssdp_resource_browser_rescan` -/
  | rescan
deriving DecidableEq

/-- What the thread has done. -/
inductive WatchAct where
  /-- The device was not discovered, and the file was not there. -/
  | undiscovered
  | openFailed
  | deactivated
  | activated
  | rescanned
deriving DecidableEq

/-- A process: the counters of the thread, what it shares with the main loop,
and what it has done, latest first. -/
structure WatchProcess where
  pc : WatchPc
  selfDiscoveryFailCount : ℕ
  browserDisableEnableCounter : ℕ
  browserActive : Bool
  deviceAddNo : ℕ
  selfDeviceDiscovered : Bool
  partialDiscovery : Bool
  gatewayDetected : ℤ
  did : List WatchAct

/-- A process, the file, and how often a process has exited since the box was
booted. -/
structure Watched where
  process : WatchProcess
  restartFile : Bool
  exits : ℕ

inductive WatchEvent where
  /-- The thread goes on; `fopen` can create the file or not. -/
  | thread (opens : Bool)
  /-- `deviceAddNo++`, `deviceAddNo--` -/
  | mainDeviceAddNo (n : ℕ)
  /-- `selfDeviceDiscovered=TRUE` -/
  | mainSelfDiscovered
  /-- `partialDiscovery=TRUE` -/
  | mainPartialDiscovery
  /-- `gatewayDetected++`, `gatewayDetected--` -/
  | mainGatewayDetected (n : ℤ)
  /-- The daemon is started again, after an exit or whatever else. -/
  | restart
  /-- The box is booted: nothing is left of `/tmp`. -/
  | reboot

def startProcess : WatchProcess where
  pc := .deviceAddNo
  selfDiscoveryFailCount := 0
  browserDisableEnableCounter := 0
  browserActive := true
  deviceAddNo := 0
  selfDeviceDiscovered := false
  partialDiscovery := false
  gatewayDetected := 0
  did := []

def booted : Watched := ⟨startProcess, false, 0⟩

namespace WatchProcess

def goto (p : WatchProcess) (pc : WatchPc) : WatchProcess := { p with pc }

def act (p : WatchProcess) (a : WatchAct) : WatchProcess :=
  { p with did := a :: p.did }

end WatchProcess

/-- What comes after the part for the restart. -/
def afterRestartPart (cfg : Settings) : WatchPc :=
  if cfg.clientXcalServer then .partialDiscovery else .rescan

/-- One step of `verify_devices`. -/
def verifyDevices (cfg : Settings) (opens : Bool) (w : Watched) : Watched :=
  let p := w.process
  match p.pc with
  | .deviceAddNo =>
      if p.deviceAddNo ≠ 0 then { w with process := p.goto .deviceAddNo }
      else if cfg.broadband then
        { w with process := p.goto (afterRestartPart cfg) }
      else { w with process := p.goto .selfDevice }
  | .selfDevice =>
      if p.selfDeviceDiscovered then
        { w with process := p.goto (afterRestartPart cfg) }
      else { w with process := p.goto .access }
  | .access =>
      if w.restartFile then { w with process := p.goto (afterRestartPart cfg) }
      else if p.selfDiscoveryFailCount ≥ 20 then
        { w with process := (p.act .undiscovered).goto .fopen }
      else
        { w with
          process :=
            { (p.act .undiscovered).goto (afterRestartPart cfg) with
              selfDiscoveryFailCount := p.selfDiscoveryFailCount + 1 } }
  | .fopen =>
      if opens then
        { process := p.goto .exited, restartFile := true, exits := w.exits + 1 }
      else
        { w with process := (p.act .openFailed).goto (afterRestartPart cfg) }
  | .exited => w
  | .partialDiscovery =>
      if p.partialDiscovery then { w with process := p.goto .gatewayDetected }
      else { w with process := p.goto .rescan }
  | .gatewayDetected =>
      if p.gatewayDetected = 0 ∧ p.browserDisableEnableCounter ≤ 2 then
        { w with process := p.goto .setInactive }
      else { w with process := p.goto .rescan }
  | .setInactive =>
      { w with
        process :=
          { (p.act .deactivated).goto .clearPartial with
            browserActive := false } }
  | .clearPartial =>
      { w with process := { p.goto .setActive with partialDiscovery := false } }
  | .setActive =>
      { w with
        process :=
          { (p.act .activated).goto .deviceAddNo with
            browserActive := true
            browserDisableEnableCounter := p.browserDisableEnableCounter + 1 } }
  | .rescan => { w with process := (p.act .rescanned).goto .deviceAddNo }

/-- An event of the box. The main loop of a process that has exited is gone. -/
def watchStep (cfg : Settings) (w : Watched) : WatchEvent → Watched
  | .thread opens => verifyDevices cfg opens w
  | .mainDeviceAddNo n =>
      { w with process := { w.process with deviceAddNo := n } }
  | .mainSelfDiscovered =>
      { w with process := { w.process with selfDeviceDiscovered := true } }
  | .mainPartialDiscovery =>
      { w with process := { w.process with partialDiscovery := true } }
  | .mainGatewayDetected n =>
      { w with process := { w.process with gatewayDetected := n } }
  | .restart => { w with process := startProcess }
  | .reboot => booted

/-! ## What a step can do -/

/-- The thread is about to leave the file, or has left it. -/
def WatchPc.leaving (pc : WatchPc) : Bool := pc = .fopen ∨ pc = .exited

/-- The part for the restart, which broadband builds do not have. -/
def WatchPc.restartPart (pc : WatchPc) : Bool :=
  pc = .selfDevice ∨ pc = .access ∨ pc.leaving

/-- The browser is turned off. -/
def WatchPc.window (pc : WatchPc) : Bool := pc = .clearPartial ∨ pc = .setActive

/-- Nothing but the place changes on the way there. -/
def WatchPc.plain (pc : WatchPc) : Bool :=
  !pc.leaving && !pc.window && pc ≠ .setInactive

/-- The steps of the thread, by what they change. -/
inductive WatchMove (cfg : Settings) (w : Watched) : Watched → Prop where
  | goes (pc : WatchPc) (hfrom : w.process.pc.plain = true)
      (hto : pc.plain = true)
      (hpart : pc.restartPart = true →
        cfg.broadband = false ∨ w.process.pc.restartPart = true) :
      WatchMove cfg w { w with process := w.process.goto pc }
  | rescans (hpc : w.process.pc = .rescan) :
      WatchMove cfg w
        { w with process := (w.process.act .rescanned).goto .deviceAddNo }
  | counts (pc : WatchPc) (hpc : w.process.pc = .access)
      (hcount : w.process.selfDiscoveryFailCount < 20)
      (hto : pc.plain = true) (hpart : pc.restartPart = false) :
      WatchMove cfg w
        { w with
          process :=
            { (w.process.act .undiscovered).goto pc with
              selfDiscoveryFailCount :=
                w.process.selfDiscoveryFailCount + 1 } }
  | leaves (hpc : w.process.pc = .access) (hfile : w.restartFile = false)
      (hcount : 20 ≤ w.process.selfDiscoveryFailCount) :
      WatchMove cfg w
        { w with process := (w.process.act .undiscovered).goto .fopen }
  | fails (pc : WatchPc) (hpc : w.process.pc = .fopen)
      (hto : pc.plain = true) (hpart : pc.restartPart = false) :
      WatchMove cfg w { w with process := (w.process.act .openFailed).goto pc }
  | exits (hpc : w.process.pc = .fopen) :
      WatchMove cfg w
        { process := w.process.goto .exited
          restartFile := true
          exits := w.exits + 1 }
  | gone (hpc : w.process.pc = .exited) : WatchMove cfg w w
  | decides (hpc : w.process.pc = .gatewayDetected)
      (hcount : w.process.browserDisableEnableCounter ≤ 2) :
      WatchMove cfg w { w with process := w.process.goto .setInactive }
  | deactivates (hpc : w.process.pc = .setInactive) :
      WatchMove cfg w
        { w with
          process :=
            { (w.process.act .deactivated).goto .clearPartial with
              browserActive := false } }
  | clears (hpc : w.process.pc = .clearPartial) :
      WatchMove cfg w
        { w with
          process :=
            { w.process.goto .setActive with partialDiscovery := false } }
  | activates (hpc : w.process.pc = .setActive) :
      WatchMove cfg w
        { w with
          process :=
            { (w.process.act .activated).goto .deviceAddNo with
              browserActive := true
              browserDisableEnableCounter :=
                w.process.browserDisableEnableCounter + 1 } }

section Moves

variable {cfg : Settings} {w w' : Watched}

theorem afterRestartPart_plain (cfg : Settings) :
    (afterRestartPart cfg).plain = true ∧
      (afterRestartPart cfg).restartPart = false := by
  rw [afterRestartPart]
  split <;> decide

theorem verifyDevices_moves (cfg : Settings) (opens : Bool) (w : Watched) :
    WatchMove cfg w (verifyDevices cfg opens w) := by
  obtain ⟨hplain, hpart⟩ := afterRestartPart_plain cfg
  have hnot : (afterRestartPart cfg).restartPart = true →
      cfg.broadband = false ∨ w.process.pc.restartPart = true := by
    rw [hpart]
    exact fun h => absurd h Bool.false_ne_true
  rw [verifyDevices]
  cases hpc : w.process.pc with
  | deviceAddNo =>
      dsimp only
      have hfrom : w.process.pc.plain = true := by rw [hpc]; rfl
      split
      · exact .goes _ hfrom rfl fun h => absurd h Bool.false_ne_true
      · split
        · exact .goes _ hfrom hplain hnot
        · rename_i hbroadband
          exact .goes _ hfrom rfl fun _ =>
            Or.inl (Bool.eq_false_iff.mpr hbroadband)
  | selfDevice =>
      dsimp only
      have hfrom : w.process.pc.plain = true := by rw [hpc]; rfl
      split
      · exact .goes _ hfrom hplain hnot
      · exact .goes _ hfrom rfl fun _ => Or.inr (by rw [hpc]; rfl)
  | access =>
      dsimp only
      split
      · exact .goes _ (by rw [hpc]; rfl) hplain hnot
      · rename_i hfile
        split
        · rename_i hcount
          exact .leaves hpc (Bool.eq_false_iff.mpr hfile) hcount
        · rename_i hcount
          exact .counts _ hpc (Nat.lt_of_not_le hcount) hplain hpart
  | fopen =>
      dsimp only
      split
      · exact .exits hpc
      · exact .fails _ hpc hplain hpart
  | exited => exact .gone hpc
  | partialDiscovery =>
      dsimp only
      have hfrom : w.process.pc.plain = true := by rw [hpc]; rfl
      split
      · exact .goes _ hfrom rfl fun h => absurd h Bool.false_ne_true
      · exact .goes _ hfrom rfl fun h => absurd h Bool.false_ne_true
  | gatewayDetected =>
      dsimp only
      split
      · rename_i hslot
        exact .decides hpc hslot.2
      · exact .goes _ (by rw [hpc]; rfl) rfl
          fun h => absurd h Bool.false_ne_true
  | setInactive => exact .deactivates hpc
  | clearPartial => exact .clears hpc
  | setActive => exact .activates hpc
  | rescan => exact .rescans hpc

end Moves

/-! ## What every step keeps -/

/-- The file is there from the one exit on. -/
structure ExitsOnce (cfg : Settings) (w : Watched) : Prop where
  exits : w.exits = w.restartFile.toNat
  opening : w.process.pc = .fopen → w.restartFile = false
  exited : w.process.pc = .exited → w.restartFile = true
  broadband : cfg.broadband = true →
    w.restartFile = false ∧ w.process.pc.restartPart = false

/-- The checks that found the device undiscovered: twenty are let pass, and
each of the others tries to leave the file. -/
structure CountsChecks (p : WatchProcess) : Prop where
  checks : p.did.count .undiscovered =
    p.selfDiscoveryFailCount + p.did.count .openFailed + p.pc.leaving.toNat
  le_twenty : p.selfDiscoveryFailCount ≤ 20
  twenty : p.selfDiscoveryFailCount < 20 →
    p.pc.leaving = false ∧ p.did.count .openFailed = 0

/-- The browser is turned off three times at most, and on again each time. -/
structure TurnsBack (p : WatchProcess) : Prop where
  active : p.browserActive = !p.pc.window
  deactivated : p.did.count .deactivated =
    p.browserDisableEnableCounter + p.pc.window.toNat
  le_three : p.browserDisableEnableCounter ≤ 3
  slot : p.pc = .setInactive ∨ p.pc.window = true →
    p.browserDisableEnableCounter ≤ 2

section Invariants

variable {cfg : Settings} {w w' : Watched} {pc : WatchPc}

theorem leaving_of_plain (h : pc.plain = true) : pc.leaving = false := by
  cases pc <;> first | rfl | cases h

theorem window_of_plain (h : pc.plain = true) :
    pc.window = false ∧ pc ≠ .setInactive := by
  cases pc <;> first | decide | cases h

theorem ExitsOnce.goes (h : ExitsOnce cfg w) {p : WatchProcess}
    (hleaving : p.pc.leaving = false)
    (hpart : cfg.broadband = true → p.pc.restartPart = false) :
    ExitsOnce cfg { w with process := p } := by
  refine ⟨h.exits, fun hpc => ?_, fun hpc => ?_, fun hb => ?_⟩
  · rw [hpc] at hleaving
    cases hleaving
  · rw [hpc] at hleaving
    cases hleaving
  · exact ⟨(h.broadband hb).1, hpart hb⟩

theorem ExitsOnce.move (h : ExitsOnce cfg w) (hmove : WatchMove cfg w w') :
    ExitsOnce cfg w' := by
  have hnot : w.process.pc.restartPart = true → cfg.broadband ≠ true := by
    intro hpart hb
    rw [(h.broadband hb).2] at hpart
    cases hpart
  cases hmove with
  | goes pc hfrom hto hpart =>
      refine h.goes (leaving_of_plain hto) fun hb => ?_
      by_contra hne
      rcases hpart (Bool.eq_true_of_not_eq_false hne) with hnb | hwas
      · rw [hnb] at hb
        cases hb
      · exact hnot hwas hb
  | rescans hpc => exact h.goes rfl fun _ => rfl
  | counts pc hpc hcount hto hpart =>
      exact h.goes (leaving_of_plain hto) fun _ => hpart
  | leaves hpc hfile hcount =>
      refine ⟨h.exits, fun _ => hfile, nofun, fun hb => ?_⟩
      exact absurd hb (hnot (by rw [hpc]; rfl))
  | fails pc hpc hto hpart =>
      exact h.goes (leaving_of_plain hto) fun _ => hpart
  | exits hpc =>
      refine ⟨?_, nofun, fun _ => rfl, fun hb => ?_⟩
      · have hexits := h.exits
        rw [h.opening hpc] at hexits
        exact congrArg Nat.succ hexits
      · exact absurd hb (hnot (by rw [hpc]; rfl))
  | gone hpc => exact h
  | decides hpc hcount => exact h.goes rfl fun _ => rfl
  | deactivates hpc => exact h.goes rfl fun _ => rfl
  | clears hpc => exact h.goes rfl fun _ => rfl
  | activates hpc => exact h.goes rfl fun _ => rfl

/-- What is no check leaves the count alone. -/
theorem CountsChecks.goes {p p' : WatchProcess} (h : CountsChecks p)
    (hfrom : p.pc.leaving = false) (hto : p'.pc.leaving = false)
    (hcount : p'.selfDiscoveryFailCount = p.selfDiscoveryFailCount)
    (hchecks : p'.did.count .undiscovered = p.did.count .undiscovered)
    (hfailed : p'.did.count .openFailed = p.did.count .openFailed) :
    CountsChecks p' := by
  obtain ⟨h₁, h₂, h₃⟩ := h
  refine ⟨?_, ?_, fun hlt => ?_⟩
  · rw [hchecks, hcount, hfailed, hto, h₁, hfrom]
  · rw [hcount]
    exact h₂
  · rw [hcount] at hlt
    rw [hfailed]
    exact ⟨hto, (h₃ hlt).2⟩

theorem CountsChecks.move (h : CountsChecks w.process)
    (hmove : WatchMove cfg w w') : CountsChecks w'.process := by
  obtain ⟨hchecks, hle, htwenty⟩ := id h
  cases hmove with
  | goes pc hfrom hto hpart =>
      exact h.goes (leaving_of_plain hfrom) (leaving_of_plain hto) rfl rfl rfl
  | rescans hpc => exact h.goes (by rw [hpc]; rfl) rfl rfl rfl rfl
  | counts pc hpc hcount hto hpart =>
      have hfailed := (htwenty hcount).2
      rw [hpc] at hchecks
      refine ⟨?_, hcount, fun _ => ⟨leaving_of_plain hto, hfailed⟩⟩
      show (_ :: w.process.did).count _ =
        _ + 1 + (_ :: w.process.did).count _ + pc.leaving.toNat
      rw [List.count_cons_self, List.count_cons_of_ne (by decide), hchecks,
        leaving_of_plain hto, hfailed]
      rfl
  | leaves hpc hfile hcount =>
      rw [hpc] at hchecks
      refine ⟨?_, hle, fun hlt => absurd hlt (Nat.not_lt.mpr hcount)⟩
      show (_ :: w.process.did).count _ = _ + (_ :: w.process.did).count _ + 1
      rw [List.count_cons_self, List.count_cons_of_ne (by decide), hchecks]
      rfl
  | fails pc hpc hto hpart =>
      rw [hpc] at hchecks
      have hfull : ¬ w.process.selfDiscoveryFailCount < 20 := by
        intro hlt
        have hleaving := (htwenty hlt).1
        rw [hpc] at hleaving
        cases hleaving
      refine ⟨?_, hle, fun hlt => absurd hlt hfull⟩
      show (_ :: w.process.did).count _ = _ + (_ :: w.process.did).count _ +
        pc.leaving.toNat
      rw [List.count_cons_self, List.count_cons_of_ne (by decide), hchecks,
        leaving_of_plain hto]
      rfl
  | exits hpc =>
      rw [hpc] at hchecks
      refine ⟨hchecks, hle, fun hlt => ?_⟩
      have hleaving := (htwenty hlt).1
      rw [hpc] at hleaving
      cases hleaving
  | gone hpc => exact ⟨hchecks, hle, htwenty⟩
  | decides hpc hcount => exact h.goes (by rw [hpc]; rfl) rfl rfl rfl rfl
  | deactivates hpc => exact h.goes (by rw [hpc]; rfl) rfl rfl rfl rfl
  | clears hpc => exact h.goes (by rw [hpc]; rfl) rfl rfl rfl rfl
  | activates hpc => exact h.goes (by rw [hpc]; rfl) rfl rfl rfl rfl

/-- Outside the part for the browser nothing concerns it. -/
theorem TurnsBack.goes {p p' : WatchProcess} (h : TurnsBack p)
    (hfrom : p.pc.window = false)
    (hto : p'.pc.window = false ∧ p'.pc ≠ .setInactive)
    (hactive : p'.browserActive = p.browserActive)
    (hcounter : p'.browserDisableEnableCounter = p.browserDisableEnableCounter)
    (hcount : p'.did.count .deactivated = p.did.count .deactivated) :
    TurnsBack p' := by
  obtain ⟨h₁, h₂, h₃, -⟩ := h
  refine ⟨?_, ?_, ?_, ?_⟩
  · rw [hactive, h₁, hfrom, hto.1]
  · rw [hcount, hcounter, h₂, hfrom, hto.1]
  · rw [hcounter]
    exact h₃
  · rintro (hpc | hwindow)
    · exact absurd hpc hto.2
    · rw [hto.1] at hwindow
      cases hwindow

theorem TurnsBack.move (h : TurnsBack w.process)
    (hmove : WatchMove cfg w w') : TurnsBack w'.process := by
  obtain ⟨hactive, hdeactivated, hle, hslot⟩ := id h
  cases hmove with
  | goes pc hfrom hto hpart =>
      exact h.goes (window_of_plain hfrom).1 (window_of_plain hto) rfl rfl rfl
  | rescans hpc => exact h.goes (by rw [hpc]; rfl) ⟨rfl, nofun⟩ rfl rfl rfl
  | counts pc hpc hcount hto hpart =>
      exact h.goes (by rw [hpc]; rfl) (window_of_plain hto) rfl rfl rfl
  | leaves hpc hfile hcount =>
      exact h.goes (by rw [hpc]; rfl) ⟨rfl, nofun⟩ rfl rfl rfl
  | fails pc hpc hto hpart =>
      exact h.goes (by rw [hpc]; rfl) (window_of_plain hto) rfl rfl rfl
  | exits hpc => exact h.goes (by rw [hpc]; rfl) ⟨rfl, nofun⟩ rfl rfl rfl
  | gone hpc => exact ⟨hactive, hdeactivated, hle, hslot⟩
  | decides hpc hcount =>
      rw [hpc] at hactive hdeactivated
      exact ⟨hactive, hdeactivated, hle, fun _ => hcount⟩
  | deactivates hpc =>
      rw [hpc] at hdeactivated
      refine ⟨rfl, ?_, hle, fun _ => hslot (Or.inl hpc)⟩
      show (_ :: w.process.did).count _ = _ + 1
      rw [List.count_cons_self, hdeactivated]
      rfl
  | clears hpc =>
      have hwindow : w.process.pc.window = true := by rw [hpc]; rfl
      rw [hwindow] at hactive hdeactivated
      exact ⟨hactive, hdeactivated, hle, fun _ => hslot (Or.inr hwindow)⟩
  | activates hpc =>
      have hwindow : w.process.pc.window = true := by rw [hpc]; rfl
      have hcounter := hslot (Or.inr hwindow)
      rw [hwindow] at hdeactivated
      refine ⟨rfl, ?_, Nat.succ_le_succ hcounter, ?_⟩
      · show (_ :: w.process.did).count _ = _
        rw [List.count_cons_of_ne (by decide), hdeactivated]
        rfl
      · rintro (hpc | hpc) <;> cases hpc

theorem CountsChecks.leaving_iff {p : WatchProcess} (h : CountsChecks p) :
    p.pc.leaving = true ↔
      20 + p.did.count .openFailed < p.did.count .undiscovered := by
  obtain ⟨hchecks, hle, htwenty⟩ := h
  rw [hchecks]
  cases hleaving : p.pc.leaving with
  | true =>
      have hfull : ¬ p.selfDiscoveryFailCount < 20 := by
        intro hlt
        rw [(htwenty hlt).1] at hleaving
        cases hleaving
      rw [Bool.toNat_true]
      exact iff_of_true rfl (by omega)
  | false =>
      rw [Bool.toNat_false]
      exact iff_of_false Bool.false_ne_true (by omega)

theorem CountsChecks.checks_le {p : WatchProcess} (h : CountsChecks p) :
    p.did.count .undiscovered ≤ 21 + p.did.count .openFailed := by
  have hle := h.le_twenty
  have hone := Bool.toNat_le p.pc.leaving
  rw [h.checks]
  omega

theorem TurnsBack.deactivated_le {p : WatchProcess} (h : TurnsBack p) :
    p.did.count .deactivated ≤ 3 := by
  rw [h.deactivated]
  cases hwindow : p.pc.window with
  | false => exact h.le_three
  | true => exact Nat.succ_le_succ (h.slot (Or.inr hwindow))

/-- The three, of a state of the box. -/
structure Watches (cfg : Settings) (w : Watched) : Prop where
  exitsOnce : ExitsOnce cfg w
  countsChecks : CountsChecks w.process
  turnsBack : TurnsBack w.process

theorem countsChecks_start : CountsChecks startProcess :=
  ⟨rfl, by decide, fun _ => ⟨rfl, rfl⟩⟩

theorem turnsBack_start : TurnsBack startProcess := by
  refine ⟨rfl, rfl, by decide, ?_⟩
  rintro (hpc | hpc) <;> cases hpc

theorem watches_booted (cfg : Settings) : Watches cfg booted :=
  ⟨⟨rfl, fun _ => rfl, nofun, fun _ => ⟨rfl, rfl⟩⟩, countsChecks_start,
    turnsBack_start⟩

/-- What the main loop does, and a new process, keep them too. -/
theorem Watches.step (h : Watches cfg w) (e : WatchEvent) :
    Watches cfg (watchStep cfg w e) := by
  obtain ⟨hexits, hchecks, hturns⟩ := h
  cases e with
  | thread opens =>
      have hmove := verifyDevices_moves cfg opens w
      exact ⟨hexits.move hmove, hchecks.move hmove, hturns.move hmove⟩
  | mainDeviceAddNo n | mainSelfDiscovered | mainPartialDiscovery
  | mainGatewayDetected n =>
      obtain ⟨h₁, h₂, h₃, h₄⟩ := hexits
      obtain ⟨h₅, h₆, h₇⟩ := hchecks
      obtain ⟨h₈, h₉, h₁₀, h₁₁⟩ := hturns
      exact ⟨⟨h₁, h₂, h₃, h₄⟩, ⟨h₅, h₆, h₇⟩, ⟨h₈, h₉, h₁₀, h₁₁⟩⟩
  | restart =>
      exact ⟨hexits.goes rfl fun _ => rfl, countsChecks_start, turnsBack_start⟩
  | reboot => exact watches_booted cfg

theorem watches_run (cfg : Settings) (es : List WatchEvent) :
    Watches cfg (es.foldl (watchStep cfg) booted) := by
  induction es using List.reverseRecOn with
  | nil => exact watches_booted cfg
  | append_singleton es e ih =>
      rw [List.foldl_append]
      exact ih.step e

end Invariants

end Xupnp.Discovery
