import Xupnp.Discovery.Handlers
import Xupnp.Discovery.Mandatory

/-!
# The callbacks in progress (`deviceAddNo`)

`verify_devices` leaves the list alone while `deviceAddNo` is not 0. In every
run it is the number of callbacks in progress, whatever the devices answer and
however the callbacks are nested, so it comes back to 0 once they have all
returned. They all return, except that a device without a gateway address can
keep a daemon without an own address in `replace_string` for ever:
`deviceAddNo_run_iff`.
-/

namespace Xupnp.Discovery

open Xupnp.Library Xupnp.WhiteList

/-! ## The daemon -/

/-- The daemon: its globals, and the callbacks in progress. -/
abbrev Daemon := MainLoop Globals ServiceRequest ServiceRequest.Answer

/-- What the main loop is told. A device is `none` where the control point or
the device is `NULL`. -/
inductive DaemonEvent where
  | available (io : Io) (cp : ControlPoint) (device : Option Announcement)
  | answer (o : ∀ r : ServiceRequest, r.Answer)
  | unavailable (io : Io) (cp : ControlPoint) (serialNumber : Option CStr)
  | lastChange (io : Io) (udn : Option CStr) (v : Variable) (value : CStr)

/-- A callback that does not wait. -/
def Handler.plain (f : XState → Option XState) (none : Handler) : Handler :=
  .get fun g =>
    match f g.xstate with
    | some s => .set { g with xstate := s } .ret
    | .none => none

/-- The callback of an event. -/
def DaemonEvent.loop (cfg : Settings) :
    DaemonEvent → LoopEvent Globals ServiceRequest ServiceRequest.Answer
  | .available io cp device => .call (Handler.available cfg io cp device)
  | .answer o => .answer o
  | .unavailable io cp sno =>
      .plain (Handler.plain (step cfg · ⟨io, .unavailable cp sno⟩) .crashes)
  | .lastChange io udn v value =>
      .plain (Handler.plain (onLastChange cfg io udn v value) .loops)

/-- One turn of the main loop. -/
def daemonStep (cfg : Settings) (x : Daemon) (e : DaemonEvent) :
    Option Daemon := x.step (e.loop cfg)

def startDaemon (serialNumber : Option CStr) : Daemon :=
  ⟨⟨startState serialNumber, 0⟩, [], false⟩

/-- `verify_devices` does not pass over the list: `if (deviceAddNo)`. -/
def Verifies (x : Daemon) : Prop := x.globals.deviceAddNo = 0

/-- The event is a device that comes or goes, or an answer. -/
def DaemonEvent.ofDevice : DaemonEvent → Bool
  | .available _ _ _ | .answer _ | .unavailable _ _ _ => true
  | .lastChange _ _ _ _ => false

theorem daemon_run (cfg : Settings) (x : Daemon) (es : List DaemonEvent) :
    runFrom (daemonStep cfg) x es =
      runFrom MainLoop.step x (es.map (DaemonEvent.loop cfg)) := by
  induction es generalizing x with
  | nil => rfl
  | cons e es ih =>
      rw [runFrom_cons, List.map_cons, runFrom_cons]
      show (x.step (e.loop cfg)).bind _ = _
      congr 1
      funext y
      exact ih y

/-! ## One rule for the callbacks -/

/-- `P` passes from the parts of the callbacks to the whole, where their
inquiries stop with an `E`. -/
structure Closed (cfg : Settings) (io : Io) (E : Stop → Prop)
    (P : Handler → Prop) : Prop where
  allows : Allows cfg E
  leave : P Handler.leave
  get : ∀ k, (∀ g, P (k g)) → P (.get k)
  modify : ∀ f c, P c → P (Handler.modify f c)
  listDevice : ∀ cp d, P (Handler.listDevice cfg io cp d)
  inquire : ∀ {β : Type} cp (q : Inquiry β) ok, q.Stops E →
    (∀ b, P (ok b)) → P (.inquire q ok (Handler.stopped cp))
  search : ∀ sno found absent, P found → P absent →
    P (Handler.search sno found absent)
  refreshIpv6Prefix : ∀ service sno,
    P (Handler.refreshIpv6Prefix cfg io service sno)

section Closed

variable {cfg : Settings} {io : Io} {E : Stop → Prop} {P : Handler → Prop}

theorem Closed.askDevice (h : Closed cfg io E P) (cp : ControlPoint)
    (a : Announcement) (d : GwyDeviceData) :
    P (Handler.askDevice cfg io a d cp) := by
  have hgateway := stops_askGwServicesGatewayConfig h.allows.refused
  cases cp with
  | basicDevice =>
      exact h.inquire _ _ _ (stops_askGwServices h.allows d) (h.listDevice _)
  | x1Renderer =>
      refine h.inquire _ _ _ ?_ (h.listDevice _)
      exact (stops_askGwServicesIdentity _).bind fun d =>
        (stops_askGwServicesMediaConfig d).bind fun _ => trivial
  | x1VideoGateway =>
      refine h.inquire _ _ _ ?_ fun r => h.modify _ _ ?_
      · exact (stops_askGwServicesIdentity _).bind fun d =>
          (stops_askGwServicesMediaConfig d).bind fun d =>
            (stops_askGwServicesTimeConfig d).bind hgateway
      · exact h.inquire _ _ _ (stops_askGwServicesQamConfig h.allows r.1)
          fun d => h.listDevice _ _
  | x1BroadbandGateway =>
      refine h.inquire _ _ _ ?_ fun r => h.modify _ _ (h.listDevice _ _)
      exact (stops_askGwServicesIdentity _).bind fun d =>
        (stops_askGwServicesTimeConfig d).bind hgateway

theorem Closed.addDevice (h : Closed cfg io E P) (cp : ControlPoint)
    (a : Announcement) : P (Handler.addDevice cfg io cp a) := by
  rw [Handler.addDevice]
  split
  · exact h.get _ fun g => h.askDevice cp a _
  · exact h.leave

/-- **What a callback does once it has counted itself**, for every device. -/
theorem Closed.available (h : Closed cfg io E P) (cp : ControlPoint) :
    ∃ c, Handler.available cfg io cp = Handler.enter c ∧ ∀ a, P (c a) := by
  cases cp with
  | basicDevice =>
      refine ⟨_, rfl, fun a => ?_⟩
      split
      · exact h.leave
      · refine h.search _ _ _ (h.refreshIpv6Prefix _ _) ?_
        split
        · exact h.addDevice _ a
        · exact h.leave
  | x1Renderer | x1BroadbandGateway =>
      exact ⟨_, rfl, fun a => h.search _ _ _ h.leave (h.addDevice _ a)⟩
  | x1VideoGateway =>
      exact ⟨_, rfl, fun a =>
        h.search _ _ _ (h.refreshIpv6Prefix _ _) (h.addDevice _ a)⟩

end Closed

/-! ## Counting -/

/-- The number of calls in progress. -/
def Counts (n : ℕ) (g : Globals) : Prop := g.deviceAddNo = .ofNat n

/-- A callback that has counted itself counts down when it returns. -/
def CountsDown (c : Handler) : Prop :=
  ∀ n g, Counts (n + 1) g → c.Safe (Counts (n + 1)) (Counts n) g

section CountsDown

variable {cfg : Settings} {io : Io} {cp : ControlPoint} {c : Handler}

theorem counts_succ {n : ℕ} {g : Globals} (h : Counts n g) :
    Counts (n + 1) { g with deviceAddNo := g.deviceAddNo + 1 } := by
  show g.deviceAddNo + 1 = .ofNat (n + 1)
  rw [UInt32.ofNat_add, ← h]
  rfl

theorem counts_pred {n : ℕ} {g : Globals} (h : Counts (n + 1) g) :
    Counts n { g with deviceAddNo := g.deviceAddNo - 1 } := by
  show g.deviceAddNo - 1 = .ofNat n
  have hsucc : UInt32.ofNat (n + 1) = .ofNat n + 1 := UInt32.ofNat_add n 1
  rw [h, hsucc, UInt32.add_sub_cancel]

theorem countsDown_leave : CountsDown Handler.leave :=
  fun _ _ h => counts_pred h

theorem countsDown_stopped (e : Stop) : CountsDown (Handler.stopped cp e) := by
  cases e with
  | refused => exact fun n _ h => countsDown_leave n _ h
  | diverges => exact fun _ _ h => h

/-- The callback returns on the path that counts down. -/
theorem countsDown_listDevice (d : GwyDeviceData) :
    CountsDown (Handler.listDevice cfg io cp d) := by
  intro n g h
  rw [Handler.listDevice, Callback.Safe, updateGwylistRun_eq]
  exact counts_pred (g := { g with xstate := _ }) h

/-- Whatever is answered, and for whatever reason the inquiry stops. -/
theorem countsDown_closed (cfg : Settings) (io : Io) :
    Closed cfg io (fun _ => True) CountsDown where
  allows := ⟨trivial, fun _ _ _ => trivial⟩
  leave := countsDown_leave
  get := fun k hk n g h => hk g n g h
  modify := fun f c hc n g h => hc n _ h
  listDevice := fun _ => countsDown_listDevice
  inquire := fun cp q ok _ hok n g h =>
    Callback.safe_inquire (fun b s hs => hok b n s hs)
      (fun e s hs => countsDown_stopped e n s hs) h
  search := by
    intro sno found absent hfound habsent n g h
    rw [Handler.search, Callback.Safe]
    split
    · exact hfound n _ h
    · exact habsent n _ h
  refreshIpv6Prefix := by
    refine fun service sno n g h => ⟨h, fun answer g' h' => ?_⟩
    rw [Callback.Safe]
    split
    · exact countsDown_leave n _ h'
    · trivial
    · exact countsDown_leave n g' h'

/-- **Every path of the four callbacks**: it counts up, and down again. -/
theorem available_safe (device : Option Announcement) (n : ℕ) (g : Globals)
    (h : Counts n g) :
    (Handler.available cfg io cp device).Safe (Counts (n + 1)) (Counts n)
      g := by
  obtain ⟨c, hc, hdown⟩ := (countsDown_closed cfg io).available cp
  rw [hc]
  cases device with
  | none => exact countsDown_leave n _ (counts_succ h)
  | some a => exact hdown a n _ (counts_succ h)

/-- A callback that does not wait does not count. -/
theorem plain_safe {f : XState → Option XState} {I : Globals → Prop}
    (hI : ∀ g s, I g → I { g with xstate := s }) (hc : ∀ g, I g → c.Safe I I g)
    {g : Globals} (h : I g) : (Handler.plain f c).Safe I I g := by
  rw [Handler.plain, Callback.Safe]
  split
  · exact hI g _ h
  · exact hc g h

theorem loop_safe (cfg : Settings) (e : DaemonEvent) :
    MainLoop.EventSafe Counts (e.loop cfg) := by
  cases e with
  | available io cp device => exact fun n g h => available_safe device n g h
  | answer o => exact trivial
  | unavailable io cp sno =>
      exact fun n g h =>
        plain_safe (c := .crashes) (fun _ _ h => h) (fun _ _ => trivial) h
  | lastChange io udn v value =>
      exact fun n g h => plain_safe (fun _ _ h => h) (fun _ h => h) h

/-- **In every run** the globals count the calls. -/
theorem holds_daemon {serialNumber : Option CStr} {es : List DaemonEvent}
    {x : Daemon} (h : runFrom (daemonStep cfg) (startDaemon serialNumber) es =
      some x) : x.Holds Counts := by
  rw [daemon_run] at h
  have hstart : (startDaemon serialNumber).Holds Counts := ⟨rfl, trivial⟩
  refine MainLoop.holds_run (fun e he => ?_) hstart h
  obtain ⟨e, -, rfl⟩ := List.mem_map.mp he
  exact loop_safe cfg e

end CountsDown

/-! ## Returning -/

/-- Some `replace_string` for a new device looks for an address that is not
empty, or for none. -/
def FindsAddress (cfg : Settings) : Prop :=
  cfg.clientXcalServer = true ∨ cfg.ipaddress.strip ≠ .empty

section Ends

variable {cfg : Settings} {io : Io} {cp : ControlPoint} {c : Handler}

theorem replaceLocalDeviceIp_ok (h : cfg.ipaddress.strip ≠ .empty)
    (d : GwyDeviceData) : ∃ d', replaceLocalDeviceIp cfg d = .ok d' := by
  rw [replaceLocalDeviceIp_eq]
  split
  · rename_i hsame
    rw [if_neg (hsame ▸ h)]
    exact ⟨_, rfl⟩
  · exact ⟨_, rfl⟩

theorem replaceUnlessServer_ok (h : FindsAddress cfg) (d : GwyDeviceData) :
    ∃ d', replaceUnlessServer cfg d = .ok d' := by
  rw [replaceUnlessServer]
  split
  · exact ⟨_, rfl⟩
  · rename_i hserver
    rcases h with h | h
    · rw [h] at hserver
      exact absurd rfl hserver
    · exact replaceLocalDeviceIp_ok h d

/-- No inquiry stops but for a datum that is missing. -/
theorem allows_refused (h : FindsAddress cfg) :
    Allows cfg fun e => e = .refused := by
  refine ⟨rfl, fun d e he => ?_⟩
  obtain ⟨d', hd'⟩ := replaceUnlessServer_ok h d
  rw [hd'] at he
  cases he

theorem ends_leave : Handler.leave.Ends := fun _ => trivial

theorem ends_listDevice (d : GwyDeviceData) :
    (Handler.listDevice cfg io cp d).Ends := by
  intro g
  dsimp only
  rw [updateGwylistRun_eq]
  exact ends_leave

theorem ends_closed (h : FindsAddress cfg) (io : Io) :
    Closed cfg io (fun e => e = .refused) Callback.Ends where
  allows := allows_refused h
  leave := ends_leave
  get := fun k hk => hk
  modify := fun f c hc _ => hc
  listDevice := fun _ => ends_listDevice
  inquire := by
    refine fun cp q ok hq hok => Callback.ends_inquire hq hok fun e he => ?_
    rw [he]
    exact fun _ => ends_leave
  search := by
    intro sno found absent hfound habsent g
    dsimp only
    split
    · exact hfound
    · exact habsent
  refreshIpv6Prefix := by
    intro service sno answer g
    dsimp only
    split
    · exact fun _ => ends_leave
    · trivial
    · exact ends_leave

/-- The four callbacks return, however they are answered. -/
theorem available_ends (h : FindsAddress cfg) (device : Option Announcement) :
    (Handler.available cfg io cp device).Ends := by
  obtain ⟨c, hc, hends⟩ := (ends_closed h io).available cp
  rw [hc]
  intro g
  cases device with
  | none => exact ends_leave
  | some a => exact hends a

theorem onLastChange_ne_none (h : cfg.ipaddress.strip ≠ .empty) (udn : Option CStr)
    (v : Variable) (value : CStr) (s : XState) :
    onLastChange cfg io udn v value s ≠ none := by
  have hset : ∀ d, ∃ r, setVariable cfg v value d = .ok r := by
    intro d
    cases v with
    | playbackUrl =>
        rw [setVariable]
        split
        · exact ⟨_, rfl⟩
        · obtain ⟨d', hd'⟩ := replaceLocalDeviceIp_ok h
            { d with playbackurl := value.strip }
          rw [hd']
          exact ⟨_, rfl⟩
    | _ => exact ⟨_, rfl⟩
  unfold onLastChange
  split
  · exact Option.some_ne_none _
  · split
    · exact Option.some_ne_none _
    · rename_i gwdata _
      obtain ⟨r, hr⟩ := hset gwdata
      rw [hr]
      cases r <;> exact Option.some_ne_none _

theorem ends_plain {f : XState → Option XState}
    (hc : ∀ s, f s = none → c.Ends) : (Handler.plain f c).Ends := by
  intro g
  dsimp only
  split
  · trivial
  · rename_i hnone
    exact hc _ hnone

theorem loop_ends (h : FindsAddress cfg) {e : DaemonEvent}
    (he : e.ofDevice = true ∨ cfg.ipaddress.strip ≠ .empty) :
    MainLoop.EventEnds (e.loop cfg) := by
  cases e with
  | available io cp device => exact available_ends h device
  | answer o => exact trivial
  | unavailable io cp sno =>
      exact ends_plain (f := (step cfg · ⟨io, .unavailable cp sno⟩))
        (c := .crashes) fun _ _ => trivial
  | lastChange io udn v value =>
      rcases he with he | he
      · cases he
      · exact ends_plain fun s hnone =>
          absurd hnone (onLastChange_ne_none he udn v value s)

/-- **The calls come to their end** in every run. -/
theorem drains_daemon (h : FindsAddress cfg) {serialNumber : Option CStr}
    {es : List DaemonEvent} {x : Daemon}
    (hes : (∀ e ∈ es, e.ofDevice = true) ∨ cfg.ipaddress.strip ≠ .empty)
    (hrun : runFrom (daemonStep cfg) (startDaemon serialNumber) es = some x) :
    MainLoop.Eventually Verifies x := by
  have hx := holds_daemon hrun
  rw [daemon_run] at hrun
  have hdrains : x.Drains := by
    have hstart : MainLoop.FramesEnd (startDaemon serialNumber).calls ∧
        (startDaemon serialNumber).hung = false := ⟨trivial, rfl⟩
    refine MainLoop.drains_run (fun e he => ?_) hstart hrun
    obtain ⟨e, hmem, rfl⟩ := List.mem_map.mp he
    exact loop_ends h (hes.imp (fun hall => hall e hmem) id)
  refine hdrains.of_holds (fun y hy hcalls => ?_) hx
  have hglobals := hy.globals
  rw [hcalls] at hglobals
  exact hglobals

end Ends

/-! ## A callback that never returns -/

section ForEver

variable {cfg : Settings}

/-- The device the daemon takes for itself: it has no gateway address either. -/
def blankDevice : DeviceProxy := echoDevice "A" ""

theorem step_blankDevice (h : ¬ FindsAddress cfg) (serialNumber : Option CStr) :
    step cfg (startState serialNumber)
      ⟨quietIo, .available .basicDevice blankDevice⟩ = none := by
  obtain ⟨hserver, hip⟩ := not_or.mp h
  have hends : ReplacesForEver cfg (blankDevice.service .discovery) :=
    ⟨⟨rfl, rfl, fun _ => ⟨rfl, rfl, rfl, rfl⟩⟩, by simpa using hserver,
      not_not.mp hip, by decide⟩
  have hinquiry : inquiry cfg blankDevice .basicDevice
      { initGwydata with
        serialNum := .lit "A"
        receiverid := .lit "7c1fc9a0" } = .error .diverges := by
    rw [inquiry, gwServicesData_forEver hends rfl rfl rfl]
    rfl
  have hupc : ¬ (cfg.rfcEnabled = true ∧
      blankDevice.upc = some (.lit "10000")) := fun hu => by cases hu.2
  have hid : blankDevice.udn.bind udnId = some (.lit "7c1fc9a0") := by decide
  show deviceProxyAvailableCb cfg quietIo blankDevice _ = none
  rw [deviceProxyAvailableCb, if_neg hupc]
  show addDevice cfg quietIo .basicDevice blankDevice _ = none
  rw [addDevice, show blankDevice.serialNumber = some (.lit "A") from rfl, hid]
  dsimp only
  rw [if_pos rfl, hinquiry]

/-- It keeps the daemon busy for ever, and `verify_devices` waiting. -/
theorem blankDevice_run (h : ¬ FindsAddress cfg) (serialNumber : Option CStr) :
    ∃ es x, (∀ e ∈ es, DaemonEvent.ofDevice e = true) ∧
      runFrom (daemonStep cfg) (startDaemon serialNumber) es = some x ∧
      ¬ MainLoop.Eventually Verifies x := by
  obtain ⟨s, hs⟩ := (complete_available cfg quietIo .basicDevice blankDevice
    (startState serialNumber) 0).2 (step_blankDevice h serialNumber)
  obtain ⟨n, y, hrun, hy⟩ := MainLoop.answers_complete [] hs
  refine ⟨.available quietIo .basicDevice (some blankDevice.announcement) ::
    List.replicate n (.answer blankDevice.answers), y, ?_, ?_, ?_⟩
  · intro e he
    rcases List.mem_cons.mp he with rfl | he
    · rfl
    · rw [List.eq_of_mem_replicate he]
      rfl
  · rw [daemon_run, List.map_cons, List.map_replicate]
    exact hrun
  · rw [if_neg Bool.false_ne_true] at hy
    rw [hy]
    exact MainLoop.not_eventually_of_hung rfl fun hv => by cases hv

end ForEver

/-- **The callbacks in progress.** In every run `deviceAddNo` is their number,
so a callback leaves it as it has found it on every path; `update_gwylist` is
never `FALSE`. While devices come and go, `deviceAddNo` comes back to 0 whatever
is answered, exactly if no callback looks for an empty address; with an own
address it does so also when variables change. -/
theorem deviceAddNo_run_iff (cfg : Settings) (serialNumber : Option CStr) :
    (∀ es x, runFrom (daemonStep cfg) (startDaemon serialNumber) es = some x →
      x.globals.deviceAddNo = .ofNat x.calls.length ∧
      ∀ fs y, runFrom (daemonStep cfg) x fs = some y →
        y.calls.length = x.calls.length →
        y.globals.deviceAddNo = x.globals.deviceAddNo) ∧
    (∀ io d s, (updateGwylistRun cfg io d s).2 = true) ∧
    ((∀ es x, (∀ e ∈ es, DaemonEvent.ofDevice e = true) →
        runFrom (daemonStep cfg) (startDaemon serialNumber) es = some x →
        MainLoop.Eventually Verifies x) ↔
      cfg.clientXcalServer = true ∨ cfg.ipaddress.strip ≠ .empty) ∧
    (cfg.ipaddress.strip ≠ .empty → ∀ es x,
      runFrom (daemonStep cfg) (startDaemon serialNumber) es = some x →
      MainLoop.Eventually Verifies x) := by
  refine ⟨fun es x hx => ⟨(holds_daemon hx).globals, ?_⟩, ?_, ⟨?_, ?_⟩, ?_⟩
  · intro fs y hy hcalls
    have hrun : runFrom (daemonStep cfg) (startDaemon serialNumber) (es ++ fs) =
        some y := by
      rw [runFrom_append, hx]
      exact hy
    have hcount : y.globals.deviceAddNo = .ofNat y.calls.length :=
      (holds_daemon hrun).globals
    rw [hcount, hcalls]
    exact (holds_daemon hx).globals.symm
  · intro io d s
    rw [updateGwylistRun_eq]
  · intro hall
    by_contra hno
    obtain ⟨es, x, hes, hrun, hx⟩ := blankDevice_run hno serialNumber
    exact hx (hall es x hes hrun)
  · exact fun h es x hes hrun => drains_daemon h (Or.inl hes) hrun
  · exact fun h es x hrun => drains_daemon (Or.inr h) (Or.inr h) hrun

/-- A build without XCAL server, where no interface had an address. -/
def noAddressSettings : Settings :=
  { broadbandSettings with
    broadband := false
    clientXcalServer := false
    ipaddress := .empty
    broadband_imp := nofun }

/-- After its 24 answers the first device is still being added, and will
be. -/
theorem deviceAddNo_run_fails :
    ∃ x, runFrom (daemonStep noAddressSettings) (startDaemon none)
        (.available quietIo .basicDevice (some blankDevice.announcement) ::
          List.replicate 24 (.answer blankDevice.answers)) = some x ∧
      x.calls.length = 1 ∧ x.globals.deviceAddNo = 1 ∧
      ¬ MainLoop.Eventually Verifies x := by
  refine ⟨_, rfl, rfl, rfl, MainLoop.not_eventually_of_hung rfl ?_⟩
  intro hv
  cases hv

end Xupnp.Discovery
