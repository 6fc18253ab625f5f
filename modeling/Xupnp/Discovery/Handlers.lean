import Xupnp.Discovery.Requests
import Xupnp.Discovery.OwnAddress
import Xupnp.Discovery.Table

/-!
# The callbacks as they wait

While a callback waits for an answer the main loop goes on, and another
callback may run in the middle of it. Here the callbacks for a device that
becomes available are written with their requests, and with `deviceAddNo`, which
they count up and down. One that is not interrupted does what `step` says it
does in one go (`endsAs_available`).
-/

namespace Xupnp.Discovery

open Xupnp.Library Xupnp.WhiteList

/-- The globals the callbacks share. `deviceAddNo` is a `guint`. -/
structure Globals where
  xstate : XState
  deviceAddNo : UInt32

/-- A callback under way. -/
abbrev Handler := Callback Globals ServiceRequest ServiceRequest.Answer

/-- What a device says of itself without being asked. -/
structure Announcement where
  serialNumber : Option CStr
  udn : Option CStr
  upc : Option CStr
  hasService : Service → Bool

def DeviceProxy.announcement (p : DeviceProxy) : Announcement where
  serialNumber := p.serialNumber
  udn := p.udn
  upc := p.upc
  hasService := p.hasService

/-- `update_gwylist`, with the path on which the entry it has found cannot be
deleted. -/
def updateGwylistRun (cfg : Settings) (io : Io) (gwydata : GwyDeviceData)
    (s : XState) : XState × Bool :=
  let sno := some gwydata.serialNum
  match listFindSno sno s.xdevlist with
  | (ds, some stored) =>
      let gwydata := (gwydata.strip .serialNum).strip .gwyip
      let s :=
        { s with
          xdevlist := modifyFound (hasSno sno) (·.strip .gwyip) ds
          trace := s.trace ++ clearRoute cfg stored gwydata }
      match deleteGwyitem cfg io sno s with
      | (s, true) => (insertAndPublish cfg io gwydata s, true)
      | (s, false) => (s, false)
  | (ds, none) =>
      (insertAndPublish cfg io
        (if ds = [] then gwydata else gwydata.strip .serialNum)
        { s with xdevlist := ds }, true)

/-- **The path is never taken**: the entry is still there. -/
theorem updateGwylistRun_eq (cfg : Settings) (io : Io) (gwydata : GwyDeviceData)
    (s : XState) :
    updateGwylistRun cfg io gwydata s =
      (updateGwylist cfg io gwydata s, true) := by
  rw [updateGwylistRun, updateGwylist]
  dsimp only
  cases hf : listFindSno (some gwydata.serialNum) s.xdevlist with
  | mk ds found =>
      cases found with
      | none => rfl
      | some stored =>
          dsimp only
          generalize hs' : ({ s with
            xdevlist := modifyFound (hasSno (some gwydata.serialNum))
              (·.strip .gwyip) ds
            trace := s.trace ++ clearRoute cfg stored
              ((gwydata.strip .serialNum).strip .gwyip) } : XState) = s'
          have hfind := listFindCustom_find_self (·.strip .serialNum)
            (hasSno (some gwydata.serialNum)) s.xdevlist
          rw [← listFindSno, hf] at hfind
          have hlisted :
              s'.xdevlist.find? (hasSno (some gwydata.serialNum)) ≠ none := by
            rw [← hs']
            show (modifyFound _ _ ds).find? _ ≠ none
            rw [modifyFound_find fun d hd => by rwa [hasSno_strip], hfind]
            exact Option.some_ne_none _
          have hdeleted := deleteGwyitem_listed cfg io hlisted
          cases hd : deleteGwyitem cfg io (some gwydata.serialNum) s' with
          | mk s'' deleted =>
              rw [hd] at hdeleted
              obtain rfl : deleted = true := hdeleted
              rfl

/-! ## The callbacks -/

namespace Handler

/-- Change the daemon's state. -/
def modify (f : XState → XState) (c : Handler) : Handler :=
  .get fun g => .set { g with xstate := f g.xstate } c

/-- `deviceAddNo--; return` -/
def leave : Handler :=
  .get fun g => .set { g with deviceAddNo := g.deviceAddNo - 1 } .ret

/-- `deviceAddNo++`, and away again if the control point or the device is
`NULL`. -/
def enter (c : Announcement → Handler) (device : Option Announcement) :
    Handler :=
  .get fun g => .set { g with deviceAddNo := g.deviceAddNo + 1 }
    (match device with
    | some a => c a
    | none => leave)

/-- An inquiry that makes no record. -/
def stopped (cp : ControlPoint) : Stop → Handler
  | .refused => modify (noteRefused cp) leave
  | .diverges => .loops

/-- `update_gwylist` has returned `FALSE`. Three callbacks return as they
are. -/
def notListed : ControlPoint → Handler
  | .basicDevice => stopped .basicDevice .refused
  | .x1Renderer | .x1VideoGateway | .x1BroadbandGateway => .ret

/-- The end of a callback that has filled a record. -/
def listDevice (cfg : Settings) (io : Io) (cp : ControlPoint)
    (gwydata : GwyDeviceData) : Handler :=
  .get fun g =>
    match updateGwylistRun cfg io gwydata g.xstate with
    | (s, true) => .set { g with xstate := s } leave
    | (s, false) => .set { g with xstate := s } (notListed cp)

/-- The services of an X1 renderer. -/
def askRenderer (d : GwyDeviceData) : Inquiry GwyDeviceData := do
  let d ← askGwServicesIdentity d
  let d ← askGwServicesMediaConfig d
  pure { d with isDevRefactored := true }

/-- The services of an X1 video gateway, up to the QAM configuration. -/
def askVideoGateway (d : GwyDeviceData) :
    Inquiry (GwyDeviceData × List Effect) := do
  let d ← askGwServicesIdentity d
  let d ← askGwServicesMediaConfig d
  let d ← askGwServicesTimeConfig d
  askGwServicesGatewayConfig d

/-- The services of an X1 broadband gateway. -/
def askBroadbandGateway (d : GwyDeviceData) :
    Inquiry (GwyDeviceData × List Effect) := do
  let d ← askGwServicesIdentity d
  let d ← askGwServicesTimeConfig d
  askGwServicesGatewayConfig d

/-- Ask a new device for its data, and list it. -/
def askDevice (cfg : Settings) (io : Io) (a : Announcement)
    (d : GwyDeviceData) : ControlPoint → Handler
  | .basicDevice =>
      .inquire (askGwServices cfg d) (listDevice cfg io .basicDevice)
        (stopped .basicDevice)
  | .x1Renderer =>
      .inquire (askRenderer { d with sproxyI := a.hasService .identity })
        (listDevice cfg io .x1Renderer) (stopped .x1Renderer)
  | .x1VideoGateway =>
      .inquire (askVideoGateway { d with sproxyI := a.hasService .identity })
        (fun (d, effects) =>
          modify (fun s => { s with trace := s.trace ++ effects })
            (.inquire (askGwServicesQamConfig cfg d)
              (fun d => listDevice cfg io .x1VideoGateway
                { d with isDevRefactored := true })
              (stopped .x1VideoGateway)))
        (stopped .x1VideoGateway)
  | .x1BroadbandGateway =>
      .inquire
        (askBroadbandGateway { d with sproxyI := a.hasService .identity })
        (fun (d, effects) =>
          modify (fun s => { s with trace := s.trace ++ effects })
            (listDevice cfg io .x1BroadbandGateway
              { d with isDevRefactored := true }))
        (stopped .x1BroadbandGateway)

/-- A serial number that is not listed. -/
def addDevice (cfg : Settings) (io : Io) (cp : ControlPoint)
    (a : Announcement) : Handler :=
  match a.serialNumber, a.udn.bind udnId with
  | some sno, some receiverid =>
      .get fun g =>
        askDevice cfg io a
          { initGwydata with
            serialNum := if g.xstate.xdevlist = [] then sno else sno.strip
            receiverid } cp
  | _, _ => leave

/-- A serial number that is listed: ask for the IPv6 prefix. The record found
may have been freed when the answer comes. -/
def refreshIpv6Prefix (cfg : Settings) (io : Io) (service : Service)
    (sno : Option CStr) : Handler :=
  .ask (.string service .getIpv6Prefix) fun answer =>
    .get fun g =>
      match g.xstate.xdevlist.find? (hasSno sno), answer with
      | some gwdata, answer =>
          modify (Discovery.refreshIpv6Prefix cfg io sno gwdata answer) leave
      | none, some _ => .crashes
      | none, none => leave

/-- `g_list_find_custom (xdevlist, sno, g_list_find_sno)` -/
def search (sno : Option CStr) (found absent : Handler) : Handler :=
  .get fun g =>
    match listFindSno sno g.xstate.xdevlist with
    | (ds, some _) =>
        .set { g with xstate := { g.xstate with xdevlist := ds } } found
    | (ds, none) =>
        .set { g with xstate := { g.xstate with xdevlist := ds } } absent

/-- `device_proxy_available_cb` -/
def deviceProxyAvailableCb (cfg : Settings) (io : Io) :
    Option Announcement → Handler :=
  enter fun a =>
    if cfg.rfcEnabled ∧ a.upc = some (.lit "10000") then leave
    else
      search a.serialNumber
        (refreshIpv6Prefix cfg io .discovery a.serialNumber)
        (if a.hasService .discovery then addDevice cfg io .basicDevice a
        else leave)

/-- `device_proxy_available_cb_client` and `device_proxy_available_cb_bgw` -/
def deviceProxyAvailableCbClient (cfg : Settings) (io : Io)
    (cp : ControlPoint) : Option Announcement → Handler :=
  enter fun a => search a.serialNumber leave (addDevice cfg io cp a)

/-- `device_proxy_available_cb_gw` -/
def deviceProxyAvailableCbGw (cfg : Settings) (io : Io) :
    Option Announcement → Handler :=
  enter fun a =>
    search a.serialNumber (refreshIpv6Prefix cfg io .gwCfg a.serialNumber)
      (addDevice cfg io .x1VideoGateway a)

/-- The callback of a control point for a device that becomes available. -/
def available (cfg : Settings) (io : Io) :
    ControlPoint → Option Announcement → Handler
  | .basicDevice => deviceProxyAvailableCb cfg io
  | .x1Renderer => deviceProxyAvailableCbClient cfg io .x1Renderer
  | .x1VideoGateway => deviceProxyAvailableCbGw cfg io
  | .x1BroadbandGateway =>
      deviceProxyAvailableCbClient cfg io .x1BroadbandGateway

end Handler

/-! ## Callbacks that are not interrupted -/

/-! ### The answers of a device -/

section Answered

variable (p : DeviceProxy) (d : GwyDeviceData)

theorem answered_askRenderer :
    (Handler.askRenderer d).answered p.answers =
      .ok { processGwServicesMediaConfig (p.service .media)
        (processGwServicesIdentity (p.service .identity) d) with
          isDevRefactored := true } := by
  rw [Handler.askRenderer, Asking.answered_bind,
    answered_askGwServicesIdentity]
  show Asking.answered _ (_ >>= _) = _
  rw [Asking.answered_bind, answered_askGwServicesMediaConfig]
  rfl

theorem answered_askBroadbandGateway :
    (Handler.askBroadbandGateway d).answered p.answers =
      processGwServicesGatewayConfig (p.service .gwCfg)
        (processGwServicesTimeConfig (p.service .time)
          (processGwServicesIdentity (p.service .identity) d)) := by
  rw [Handler.askBroadbandGateway, Asking.answered_bind,
    answered_askGwServicesIdentity]
  show Asking.answered _ (_ >>= _) = _
  rw [Asking.answered_bind, answered_askGwServicesTimeConfig]
  exact answered_askGwServicesGatewayConfig p _

theorem answered_askVideoGateway :
    (Handler.askVideoGateway d).answered p.answers =
      processGwServicesGatewayConfig (p.service .gwCfg)
        (processGwServicesTimeConfig (p.service .time)
          (processGwServicesMediaConfig (p.service .media)
            (processGwServicesIdentity (p.service .identity) d))) := by
  rw [Handler.askVideoGateway, Asking.answered_bind,
    answered_askGwServicesIdentity]
  show Asking.answered _ (_ >>= _) = _
  rw [Asking.answered_bind, answered_askGwServicesMediaConfig]
  show Asking.answered _ (_ >>= _) = _
  rw [Asking.answered_bind, answered_askGwServicesTimeConfig]
  exact answered_askGwServicesGatewayConfig p _

end Answered

/-! ### The end of a callback -/

/-- What becomes of an inquiry in one go; `none` is one that never ends. -/
def outcome {β : Type} (cp : ControlPoint) (s : XState) (f : β → Option XState) :
    Except Stop β → Option XState
  | .ok b => f b
  | .error .refused => some (noteRefused cp s)
  | .error .diverges => none

section Outcome

variable {β γ : Type} {cp : ControlPoint} {s s' : XState} {f : γ → Option XState}

theorem outcome_bind (x : Except Stop β) (h : β → Except Stop γ) :
    outcome cp s f (x >>= h) = outcome cp s (fun b => outcome cp s f (h b)) x := by
  cases x with
  | ok b => rfl
  | error e => cases e <;> rfl

/-- The state counts where a datum is missing. -/
theorem outcome_congr {x : Except Stop γ} (hx : x ≠ .error .refused) :
    outcome cp s f x = outcome cp s' f x := by
  cases x with
  | ok b => rfl
  | error e =>
      cases e with
      | refused => exact absurd rfl hx
      | diverges => rfl

end Outcome

/-- A callback that has counted itself ends as the one that runs in one go. -/
def EndsAs (p : DeviceProxy) (c : Handler) (g : Globals) :
    Option XState → Prop
  | some s =>
      c.complete p.answers g = some (⟨s, g.deviceAddNo - 1⟩, true)
  | none => ∃ s, c.complete p.answers g = some (⟨s, g.deviceAddNo⟩, false)

section EndsAs

variable {cfg : Settings} {io : Io} {p : DeviceProxy} {cp : ControlPoint}
  {g : Globals}

theorem endsAs_leave : EndsAs p Handler.leave g (some g.xstate) := rfl

theorem endsAs_listDevice (d : GwyDeviceData) :
    EndsAs p (Handler.listDevice cfg io cp d) g
      (some (updateGwylist cfg io d g.xstate)) := by
  show (Handler.listDevice cfg io cp d).complete p.answers g = _
  rw [Handler.listDevice, Callback.complete, updateGwylistRun_eq]
  rfl

theorem endsAs_modify {f : XState → XState} {c : Handler} {o : Option XState}
    (h : EndsAs p c { g with xstate := f g.xstate } o) :
    EndsAs p (Handler.modify f c) g o := by
  cases o <;> exact h

/-- The requests have been answered. -/
theorem endsAs_inquire {β : Type} {q : Inquiry β} {x : Except Stop β}
    (hq : q.answered p.answers = x) {ok : β → Handler} {f : β → Option XState}
    (hok : ∀ b, EndsAs p (ok b) g (f b)) :
    EndsAs p (.inquire q ok (Handler.stopped cp)) g
      (outcome cp g.xstate f x) := by
  have hcomplete := Callback.complete_inquire p.answers q ok
    (Handler.stopped cp) g
  rw [hq] at hcomplete
  cases x with
  | ok b =>
      have hb := hok b
      show EndsAs p _ g (f b)
      unfold EndsAs at hb ⊢
      rw [hcomplete]
      exact hb
  | error e =>
      cases e with
      | refused => exact hcomplete
      | diverges => exact ⟨g.xstate, hcomplete⟩

/-- Looking for the own address refuses nothing. -/
theorem replaceUnlessServer_ne_refused (cfg : Settings) (d : GwyDeviceData) :
    replaceUnlessServer cfg d ≠ .error .refused := by
  rw [replaceUnlessServer]
  split
  · exact nofun
  · rw [replaceLocalDeviceIp_eq]
    split
    · split
      · exact nofun
      · exact nofun
    · exact nofun

/-- **Asking a new device.** -/
theorem endsAs_askDevice (d : GwyDeviceData) :
    EndsAs p (Handler.askDevice cfg io p.announcement d cp) g
      (outcome cp g.xstate
        (fun r => some (updateGwylist cfg io r.1
          { g.xstate with trace := g.xstate.trace ++ r.2 }))
        (inquiry cfg p cp d)) := by
  cases cp with
  | basicDevice =>
      rw [inquiry, outcome_bind]
      refine endsAs_inquire (answered_askGwServices cfg p d) fun d' => ?_
      show EndsAs p _ g (some (updateGwylist cfg io d'
        { g.xstate with trace := g.xstate.trace ++ [] }))
      rw [List.append_nil]
      exact endsAs_listDevice d'
  | x1Renderer =>
      show EndsAs p _ g (some (updateGwylist cfg io _
        { g.xstate with trace := g.xstate.trace ++ [] }))
      rw [List.append_nil]
      exact endsAs_inquire (answered_askRenderer p _)
        fun d' => endsAs_listDevice d'
  | x1BroadbandGateway =>
      rw [inquiry]
      dsimp only
      rw [outcome_bind]
      exact endsAs_inquire (answered_askBroadbandGateway p _)
        fun r => endsAs_modify (endsAs_listDevice _)
  | x1VideoGateway =>
      rw [inquiry]
      dsimp only
      rw [outcome_bind]
      refine endsAs_inquire (answered_askVideoGateway p _)
        fun r => endsAs_modify ?_
      rw [outcome_bind]
      -- The last requests refuse nothing.
      have hne : processGwServicesQamConfig cfg (p.service .qamCfg) r.1 ≠
          .error .refused := replaceUnlessServer_ne_refused _ _
      rw [outcome_congr hne]
      exact endsAs_inquire (answered_askGwServicesQamConfig cfg p r.1)
        fun d' => endsAs_listDevice _

theorem endsAs_addDevice :
    EndsAs p (Handler.addDevice cfg io cp p.announcement) g
      (addDevice cfg io cp p g.xstate) := by
  have hstart : Handler.addDevice cfg io cp p.announcement =
      match p.serialNumber, p.udn.bind udnId with
      | some sno, some receiverid =>
          .get fun g =>
            Handler.askDevice cfg io p.announcement
              { initGwydata with
                serialNum :=
                  if g.xstate.xdevlist = [] then sno else sno.strip
                receiverid } cp
      | _, _ => Handler.leave := rfl
  rw [hstart, addDevice]
  cases p.serialNumber with
  | none => exact endsAs_leave
  | some sno =>
      cases p.udn.bind udnId with
      | none => exact endsAs_leave
      | some receiverid =>
          dsimp only
          generalize hd : ({ initGwydata with
            serialNum := if g.xstate.xdevlist = [] then sno else sno.strip
            receiverid } : GwyDeviceData) = d
          have h : EndsAs p (Handler.askDevice cfg io p.announcement d cp) g
              (outcome cp g.xstate _ _) := endsAs_askDevice d
          rw [← hd] at h
          cases hx : inquiry cfg p cp d with
          | ok r =>
              rw [← hd] at hx
              rw [hx] at h
              exact h
          | error e =>
              rw [← hd] at hx
              rw [hx] at h
              cases e <;> exact h

/-- A search for the serial number. -/
theorem endsAs_search {sno : Option CStr} {found absent : Handler}
    {f : List GwyDeviceData → GwyDeviceData → Option XState}
    {h : List GwyDeviceData → Option XState}
    (hfound : ∀ ds d, ds.find? (hasSno sno) = some d →
      EndsAs p found { g with xstate := { g.xstate with xdevlist := ds } }
        (f ds d))
    (habsent : ∀ ds,
      EndsAs p absent { g with xstate := { g.xstate with xdevlist := ds } }
        (h ds)) :
    EndsAs p (Handler.search sno found absent) g
      (match listFindSno sno g.xstate.xdevlist with
      | (ds, some d) => f ds d
      | (ds, none) => h ds) := by
  have hfind := listFindCustom_find_self (·.strip .serialNum) (hasSno sno)
    g.xstate.xdevlist
  rw [← listFindSno] at hfind
  have hcomplete : (Handler.search sno found absent).complete p.answers g =
      (match listFindSno sno g.xstate.xdevlist with
      | (ds, some _) =>
          found.complete p.answers
            { g with xstate := { g.xstate with xdevlist := ds } }
      | (ds, none) =>
          absent.complete p.answers
            { g with xstate := { g.xstate with xdevlist := ds } }) := by
    rw [Handler.search, Callback.complete]
    split <;> rfl
  unfold EndsAs
  rw [hcomplete]
  cases hf : listFindSno sno g.xstate.xdevlist with
  | mk ds r =>
      rw [hf] at hfind
      cases r with
      | some d => exact hfound ds d hfind
      | none => exact habsent ds

/-- The answer comes while the record is still listed. -/
theorem endsAs_refreshIpv6Prefix {service : Service} {sno : Option CStr}
    {d : GwyDeviceData} (h : g.xstate.xdevlist.find? (hasSno sno) = some d) :
    EndsAs p (Handler.refreshIpv6Prefix cfg io service sno) g
      (some (refreshIpv6Prefix cfg io sno d
        ((p.service service).string .getIpv6Prefix) g.xstate)) := by
  show (Handler.refreshIpv6Prefix cfg io service sno).complete p.answers g = _
  rw [Handler.refreshIpv6Prefix, Callback.complete, Callback.complete, h]
  rfl

/-- What a callback does once it has counted itself. -/
theorem endsAs_counted (cfg : Settings) (io : Io) (cp : ControlPoint)
    (p : DeviceProxy) (s : XState) (n : UInt32) :
    ∃ c : Handler,
      (Handler.available cfg io cp (some p.announcement)).complete p.answers
        ⟨s, n⟩ = c.complete p.answers ⟨s, n + 1⟩ ∧
      EndsAs p c ⟨s, n + 1⟩ (step cfg s ⟨io, .available cp p⟩) := by
  cases cp with
  | basicDevice =>
      refine ⟨_, rfl, ?_⟩
      show EndsAs p (if cfg.rfcEnabled ∧ p.upc = some (.lit "10000") then _
        else _) _ (deviceProxyAvailableCb cfg io p s)
      rw [deviceProxyAvailableCb]
      split
      · exact endsAs_leave
      · refine endsAs_search (fun ds d hd => endsAs_refreshIpv6Prefix hd)
          fun ds => ?_
        show EndsAs p (if p.hasService .discovery then _ else _) _ _
        split
        · exact endsAs_addDevice
        · exact endsAs_leave
  | x1Renderer =>
      exact ⟨_, rfl, endsAs_search (fun ds d _ => endsAs_leave)
        fun ds => endsAs_addDevice⟩
  | x1VideoGateway =>
      exact ⟨_, rfl,
        endsAs_search (fun ds d hd => endsAs_refreshIpv6Prefix hd)
          fun ds => endsAs_addDevice⟩
  | x1BroadbandGateway =>
      exact ⟨_, rfl, endsAs_search (fun ds d _ => endsAs_leave)
        fun ds => endsAs_addDevice⟩

end EndsAs

/-- **A callback that is not interrupted** does what `step` says, and leaves
`deviceAddNo` as it was; one that never ends has counted itself. -/
theorem complete_available (cfg : Settings) (io : Io) (cp : ControlPoint)
    (p : DeviceProxy) (s : XState) (n : UInt32) :
    (∀ s', step cfg s ⟨io, .available cp p⟩ = some s' →
      (Handler.available cfg io cp (some p.announcement)).complete p.answers
        ⟨s, n⟩ = some (⟨s', n⟩, true)) ∧
    (step cfg s ⟨io, .available cp p⟩ = none →
      ∃ s', (Handler.available cfg io cp (some p.announcement)).complete
        p.answers ⟨s, n⟩ = some (⟨s', n + 1⟩, false)) := by
  obtain ⟨c, hc, h⟩ := endsAs_counted cfg io cp p s n
  rw [hc]
  constructor
  · intro s' hs'
    rw [hs'] at h
    have h' : c.complete p.answers ⟨s, n + 1⟩ =
      some (⟨s', n + 1 - 1⟩, true) := h
    rwa [UInt32.add_sub_cancel] at h'
  · intro hnone
    rw [hnone] at h
    exact h

end Xupnp.Discovery
