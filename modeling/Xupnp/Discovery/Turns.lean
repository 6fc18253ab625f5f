import Xupnp.Library.Turns
import Xupnp.Discovery.DeviceAddNo

/-!
# What one turn of the main loop does to the device list

A callback that waits leaves the list to the others, and goes on with whatever
they have made of it. `Turn` says everything a callback can do to the list
between two pauses; `daemon_turn` says that every turn of the daemon is one, in
every run and however the callbacks are nested. What is to hold of the list in
every run is derived from the cases of `Turn`.
-/

namespace Xupnp.Discovery

open Xupnp.Library Xupnp.WhiteList

/-! ## The cases of a turn -/

/-- Whom a callback is about: a device that comes or goes, by its serial
number, or the one whose notifications come under an id. -/
inductive Subject where
  | coming (sno : Option CStr)
  | leaving (sno : Option CStr)
  | udn (id : CStr)

/-- The records meant. -/
def Subject.hit : Subject → GwyDeviceData → Bool
  | .coming sno => hasSno sno
  | .leaving sno => hasSno sno
  | .udn id => hasReceiverid id

/-- White space is stripped, and effects are recorded. -/
structure Tidied (s s' : XState) : Prop where
  xdevlist : s'.xdevlist.map GwyDeviceData.normal =
    s.xdevlist.map GwyDeviceData.normal
  outputcontents : s'.outputcontents = s.outputcontents
  ownSerialNo : s'.ownSerialNo.strip = s.ownSerialNo.strip
  bSerialNum : s'.bSerialNum = s.bSerialNum

/-- What a callback about `w` does to the list between two pauses. -/
inductive Turn (cfg : Settings) (w : Subject) (s s' : XState) : Prop
  | kept (same : Tidied s s')
  /-- A record is listed, in place of the one of its serial number. -/
  | updated (io : Io) (d : GwyDeviceData) (sno : CStr) (s₁ : XState)
      (subject : w = .coming (some sno)) (key : d.key = sno.strip)
      (before : Tidied s s₁) (after : s' = updateGwylist cfg io d s₁)
  /-- The device of a serial number is deleted, if it is listed. -/
  | deleted (io : Io) (sno : Option CStr) (s₁ : XState)
      (subject : w = .leaving sno) (own : sno ≠ some s.ownSerialNo.strip)
      (before : Tidied s s₁) (after : s' = deleteAndPublish cfg io sno s₁)
  /-- A listed record is changed in place. -/
  | changed (io : Io) (f : GwyDeviceData → GwyDeviceData) (s₁ : XState)
      (before : Tidied s s₁)
      (ids : ∀ d, s₁.xdevlist.find? w.hit = some d → (f d).ids = d.ids)
      (after : s' = sendDiscoveryResult cfg io
        { s₁ with xdevlist := modifyFound w.hit f s₁.xdevlist })

namespace Tidied

theorem refl (s : XState) : Tidied s s := ⟨rfl, rfl, rfl, rfl⟩

theorem trans {s s' s'' : XState} (h : Tidied s s') (h' : Tidied s' s'') :
    Tidied s s'' where
  xdevlist := h'.xdevlist.trans h.xdevlist
  outputcontents := h'.outputcontents.trans h.outputcontents
  ownSerialNo := h'.ownSerialNo.trans h.ownSerialNo
  bSerialNum := h'.bSerialNum.trans h.bSerialNum

/-- Only the list is tidied. -/
theorem of_list {s : XState} {ds : List GwyDeviceData}
    (h : ds.map GwyDeviceData.normal = s.xdevlist.map GwyDeviceData.normal) :
    Tidied s { s with xdevlist := ds } := ⟨h, rfl, rfl, rfl⟩

theorem noteRefused (cp : ControlPoint) (s : XState) :
    Tidied s (noteRefused cp s) := by
  cases cp <;> exact ⟨rfl, rfl, rfl, rfl⟩

end Tidied

/-! ## What the inquiries make of a record -/

/-- Whatever is answered, the record keeps its serial number. -/
def KeepsSno (d : GwyDeviceData) (q : Inquiry GwyDeviceData) : Prop :=
  q.Yields fun d' => d'.serialNum = d.serialNum

section KeepsSno

variable {cfg : Settings} {d : GwyDeviceData}

theorem keepsSno_askGwServices (cfg : Settings) (d : GwyDeviceData) :
    KeepsSno d (askGwServices cfg d) := by
  have hhead : KeepsSno d (askGwServicesHead d) := by
    iterate 6 refine Asking.Yields.bind (Asking.yields_true _) fun _ _ => ?_
    exact rfl
  have htype : ∀ d', d'.serialNum = d.serialNum →
      KeepsSno d (askGwServicesByType d') := by
    intro d' h
    rw [askGwServicesByType]
    split
    · exact fun _ => h
    · iterate 18 refine Asking.Yields.bind (Asking.yields_true _) fun _ _ => ?_
      exact h
  refine Asking.Yields.bind hhead fun d₁ h₁ => ?_
  refine Asking.Yields.bind (htype d₁ h₁) fun d₂ h₂ => ?_
  refine Asking.Yields.bind (Asking.Yields.ofExcept fun _ h =>
    (sameIds_replaceUnlessServer h).serialNum) fun d₃ h₃ => ?_
  exact h₃.trans h₂

theorem keepsSno_askGwServicesIdentity (d : GwyDeviceData) :
    KeepsSno d (askGwServicesIdentity d) := by
  iterate 15 refine Asking.Yields.bind (Asking.yields_true _) fun _ _ => ?_
  exact rfl

theorem keepsSno_askGwServicesTimeConfig (d : GwyDeviceData) :
    KeepsSno d (askGwServicesTimeConfig d) := by
  iterate 5 refine Asking.Yields.bind (Asking.yields_true _) fun _ _ => ?_
  exact rfl

theorem yields_askGwServicesGatewayConfig (d : GwyDeviceData) :
    (askGwServicesGatewayConfig d).Yields
      fun r => r.1.serialNum = d.serialNum := by
  iterate 12 refine Asking.Yields.bind (Asking.yields_true _) fun _ _ => ?_
  exact rfl

theorem keepsSno_askGwServicesQamConfig (cfg : Settings) (d : GwyDeviceData) :
    KeepsSno d (askGwServicesQamConfig cfg d) := by
  iterate 3 refine Asking.Yields.bind (Asking.yields_true _) fun _ _ => ?_
  exact Asking.Yields.ofExcept fun _ h =>
    (sameIds_replaceUnlessServer h).serialNum

theorem keepsSno_askRenderer (d : GwyDeviceData) :
    KeepsSno d (Handler.askRenderer d) := by
  refine Asking.Yields.bind (keepsSno_askGwServicesIdentity d) fun d₁ h₁ => ?_
  exact fun _ => h₁

theorem yields_askVideoGateway (d : GwyDeviceData) :
    (Handler.askVideoGateway d).Yields
      fun r => r.1.serialNum = d.serialNum := by
  refine Asking.Yields.bind (keepsSno_askGwServicesIdentity d) fun d₁ h₁ => ?_
  have hmedia : KeepsSno d (askGwServicesMediaConfig d₁) := fun _ => h₁
  refine Asking.Yields.bind hmedia fun d₂ h₂ => ?_
  refine Asking.Yields.bind (keepsSno_askGwServicesTimeConfig d₂)
    fun d₃ h₃ => ?_
  exact (yields_askGwServicesGatewayConfig d₃).imp fun r h =>
    h.trans (h₃.trans h₂)

theorem yields_askBroadbandGateway (d : GwyDeviceData) :
    (Handler.askBroadbandGateway d).Yields
      fun r => r.1.serialNum = d.serialNum := by
  refine Asking.Yields.bind (keepsSno_askGwServicesIdentity d) fun d₁ h₁ => ?_
  refine Asking.Yields.bind (keepsSno_askGwServicesTimeConfig d₁)
    fun d₂ h₂ => ?_
  exact (yields_askGwServicesGatewayConfig d₂).imp fun r h =>
    h.trans (h₂.trans h₁)

end KeepsSno

/-! ## The callbacks -/

/-- Each stretch of the callback is a turn, where nothing but white space has
changed since the stretch began. -/
def TurnsAbout (cfg : Settings) (w : Subject) (c : Handler) : Prop :=
  ∀ g₀ g : Globals, Tidied g₀.xstate g.xstate →
    c.Turns (fun g g' => Turn cfg w g.xstate g'.xstate) g₀ g

section TurnsAbout

variable {cfg : Settings} {io : Io} {w : Subject} {cp : ControlPoint}
  {sno : CStr}

theorem turnsAbout_leave : TurnsAbout cfg w Handler.leave :=
  fun _ _ h => .kept h

theorem turnsAbout_stopped (e : Stop) :
    TurnsAbout cfg w (Handler.stopped cp e) := by
  intro g₀ g h
  cases e with
  | refused => exact .kept (h.trans (.noteRefused cp _))
  | diverges => exact .kept h

/-- Effects are recorded. -/
theorem turnsAbout_trace {c : Handler} (effects : List Effect)
    (hc : TurnsAbout cfg w c) :
    TurnsAbout cfg w
      (Handler.modify (fun s => { s with trace := s.trace ++ effects }) c) :=
  fun g₀ _ h => hc g₀ _ (h.trans ⟨rfl, rfl, rfl, rfl⟩)

theorem turnsAbout_listDevice (hw : w = .coming (some sno))
    {d : GwyDeviceData} (hkey : d.key = sno.strip) :
    TurnsAbout cfg w (Handler.listDevice cfg io cp d) := by
  intro g₀ g h
  rw [Handler.listDevice, Callback.Turns, updateGwylistRun_eq]
  exact .updated io d sno g.xstate hw hkey h rfl

theorem turnsAbout_inquire {β : Type} {q : Inquiry β} {P : β → Prop}
    {ok : β → Handler} (hq : q.Yields P)
    (hok : ∀ b, P b → TurnsAbout cfg w (ok b)) :
    TurnsAbout cfg w (.inquire q ok (Handler.stopped cp)) := by
  intro g₀ g h
  exact Callback.turns_inquire
    (T := fun g g' : Globals => Tidied g.xstate g'.xstate)
    (fun g => .refl g.xstate) (fun _ _ h => .kept h) hq
    (fun b hb g₀ g h => hok b hb g₀ g h)
    (fun e g₀ g h => turnsAbout_stopped e g₀ g h) h

/-- Ask a new device for its data, and list it. -/
theorem turnsAbout_askDevice (hw : w = .coming (some sno)) (a : Announcement)
    {d : GwyDeviceData} (hkey : d.key = sno.strip) (cp : ControlPoint) :
    TurnsAbout cfg w (Handler.askDevice cfg io a d cp) := by
  have hlist : ∀ cp (d' : GwyDeviceData), d'.serialNum = d.serialNum →
      TurnsAbout cfg w (Handler.listDevice cfg io cp d') := fun cp d' h =>
    turnsAbout_listDevice hw ((congrArg CStr.strip h).trans hkey)
  cases cp with
  | basicDevice =>
      exact turnsAbout_inquire (keepsSno_askGwServices cfg d) (hlist _)
  | x1Renderer =>
      exact turnsAbout_inquire (keepsSno_askRenderer _) (hlist _)
  | x1VideoGateway =>
      refine turnsAbout_inquire (yields_askVideoGateway _) fun r hr => ?_
      refine turnsAbout_trace r.2 ?_
      exact turnsAbout_inquire (keepsSno_askGwServicesQamConfig cfg r.1)
        fun d' h => hlist _ _ (h.trans hr)
  | x1BroadbandGateway =>
      refine turnsAbout_inquire (yields_askBroadbandGateway _) fun r hr => ?_
      exact turnsAbout_trace r.2 (hlist _ _ hr)

theorem turnsAbout_addDevice (a : Announcement) :
    TurnsAbout cfg (.coming a.serialNumber)
      (Handler.addDevice cfg io cp a) := by
  rw [Handler.addDevice]
  split
  · rename_i sno receiverid hsno _
    intro g₀ g h
    refine turnsAbout_askDevice (congrArg _ hsno) a ?_ cp g₀ g h
    rw [GwyDeviceData.key]
    dsimp only
    split
    · rfl
    · exact CStr.strip_strip sno
  · exact turnsAbout_leave

theorem turn_refreshIpv6Prefix (sno : Option CStr) (gwdata : GwyDeviceData)
    (answer : Option CStr) (s : XState) :
    Turn cfg (.coming sno) s
      (refreshIpv6Prefix cfg io sno gwdata answer s) := by
  cases answer with
  | none => exact .kept (.refl s)
  | some temp =>
      rw [refreshIpv6Prefix]
      split
      · exact .kept (.refl s)
      · exact .changed io (fun d => { d with ipv6prefix := temp.strip }) s
          (.refl s) (fun _ _ => rfl) rfl

theorem turnsAbout_refreshIpv6Prefix (service : Service) (sno : Option CStr) :
    TurnsAbout cfg (.coming sno)
      (Handler.refreshIpv6Prefix cfg io service sno) := by
  refine fun g₀ g h => ⟨.kept h, fun answer g' => ?_⟩
  rw [Callback.Turns]
  split
  · exact turn_refreshIpv6Prefix sno _ _ g'.xstate
  · trivial
  · exact .kept (.refl _)

theorem turnsAbout_search {sno : Option CStr} {found absent : Handler}
    (hfound : TurnsAbout cfg w found) (habsent : TurnsAbout cfg w absent) :
    TurnsAbout cfg w (Handler.search sno found absent) := by
  intro g₀ g h
  have hlist := listFindSno_normal sno g.xstate.xdevlist
  rw [Handler.search, Callback.Turns]
  split
  · rename_i ds _ hf
    rw [hf] at hlist
    exact hfound g₀ _ (h.trans (.of_list hlist))
  · rename_i ds hf
    rw [hf] at hlist
    exact habsent g₀ _ (h.trans (.of_list hlist))

/-- The subject of a callback for a device that becomes available. -/
def Announcement.subject (device : Option Announcement) : Subject :=
  .coming (device.bind Announcement.serialNumber)

/-- **The four callbacks** for a device that becomes available. -/
theorem turnsAbout_available (cp : ControlPoint)
    (device : Option Announcement) :
    TurnsAbout cfg (Announcement.subject device)
      (Handler.available cfg io cp device) := by
  have henter : ∀ c : Announcement → Handler,
      (∀ a, TurnsAbout cfg (.coming a.serialNumber) (c a)) →
      TurnsAbout cfg (Announcement.subject device)
        (Handler.enter c device) := by
    intro c hc g₀ g h
    cases device with
    | none => exact .kept h
    | some a => exact hc a g₀ _ h
  have hadd (cp : ControlPoint) (a : Announcement) :
      TurnsAbout cfg (.coming a.serialNumber)
        (Handler.addDevice cfg io cp a) := turnsAbout_addDevice a
  have hrefresh (service : Service) (a : Announcement) :
      TurnsAbout cfg (.coming a.serialNumber)
        (Handler.refreshIpv6Prefix cfg io service a.serialNumber) :=
    turnsAbout_refreshIpv6Prefix service a.serialNumber
  cases cp with
  | basicDevice =>
      refine henter _ fun a => ?_
      split
      · exact turnsAbout_leave
      · refine turnsAbout_search (hrefresh _ a) ?_
        split
        · exact hadd _ a
        · exact turnsAbout_leave
  | x1Renderer | x1BroadbandGateway =>
      exact henter _ fun a => turnsAbout_search turnsAbout_leave (hadd _ a)
  | x1VideoGateway =>
      exact henter _ fun a => turnsAbout_search (hrefresh _ a) (hadd _ a)

end TurnsAbout

/-! ## The callbacks that do not wait -/

section Plain

variable {cfg : Settings} {io : Io} {s s' : XState}

theorem turn_deleteAndPublish {sno : Option CStr} {s₁ : XState}
    (h : Tidied s s₁) (hown : sno ≠ some s.ownSerialNo.strip) :
    Turn cfg (.leaving sno) s (deleteAndPublish cfg io sno s₁) :=
  .deleted io sno s₁ rfl hown h rfl

/-- A device goes. -/
theorem turn_unavailable {cp : ControlPoint} {sno : Option CStr}
    (h : step cfg s ⟨io, .unavailable cp sno⟩ = some s') :
    Turn cfg (.leaving sno) s s' := by
  have hstrip : Tidied s { s with ownSerialNo := s.ownSerialNo.strip } :=
    ⟨rfl, rfl, CStr.strip_strip _, rfl⟩
  have hchecked : deviceProxyUnavailableCb cfg io sno s = some s' →
      Turn cfg (.leaving sno) s s' := by
    intro h
    unfold deviceProxyUnavailableCb at h
    dsimp only at h
    split at h
    · obtain rfl := Option.some.inj h
      exact .kept hstrip
    rename_i hown
    split at h
    · cases h
    · rename_i ds hf
      obtain rfl := Option.some.inj h
      exact .kept (hstrip.trans (.of_list (checkDeviceExists_list hf)))
    · rename_i ds url hf
      have hlist := hstrip.trans (.of_list (checkDeviceExists_list hf))
      split at h
      · obtain rfl := Option.some.inj h
        exact .kept hlist
      · obtain rfl := Option.some.inj h
        exact turn_deleteAndPublish hlist hown
  have hplain : deviceProxyUnavailableCbClient cfg io sno s = some s' →
      Turn cfg (.leaving sno) s s' := by
    intro h
    unfold deviceProxyUnavailableCbClient at h
    dsimp only at h
    split at h
    · obtain rfl := Option.some.inj h
      exact .kept hstrip
    · rename_i hown
      obtain rfl := Option.some.inj h
      exact turn_deleteAndPublish hstrip hown
  cases cp with
  | basicDevice | x1VideoGateway => exact hchecked h
  | x1Renderer | x1BroadbandGateway => exact hplain h

theorem listFindUdn_normal (id : CStr) (l : List GwyDeviceData) :
    (listFindUdn id l).1.map GwyDeviceData.normal =
      l.map GwyDeviceData.normal :=
  listFindCustom_map (fun d => d.normal_strip .receiverid) l

/-- A device tells of a change. -/
theorem turn_lastChange {udn : Option CStr} {v : Variable} {value : CStr}
    (h : onLastChange cfg io udn v value s = some s') :
    Tidied s s' ∨ ∃ id ∈ udn.bind udnId, Turn cfg (.udn id) s s' := by
  unfold onLastChange at h
  split at h
  · obtain rfl := Option.some.inj h
    exact Or.inl (.refl s)
  rename_i id hid
  refine Or.inr ⟨id, hid, ?_⟩
  have hlist := listFindUdn_normal id s.xdevlist
  have hfind : (listFindUdn id s.xdevlist).1.find? (hasReceiverid id) =
      (listFindUdn id s.xdevlist).2 :=
    listFindCustom_find_self _ _ s.xdevlist
  split at h
  · rename_i ds hf
    rw [hf] at hlist
    obtain rfl := Option.some.inj h
    exact .kept (.of_list hlist)
  · rename_i ds gwdata hf
    rw [hf] at hlist hfind
    split at h
    · cases h
    · obtain rfl := Option.some.inj h
      exact .kept (.of_list hlist)
    · rename_i d' effects hset
      obtain rfl := Option.some.inj h
      refine .changed io (fun _ => d')
        { s with xdevlist := ds, trace := s.trace ++ effects }
        ⟨hlist, rfl, rfl, rfl⟩ (fun d hd => ?_) rfl
      obtain rfl := Option.some.inj (hfind.symm.trans hd)
      exact setVariable_ids hset

end Plain

/-! ## Every turn of the daemon -/

/-- A turn of a callback about one of `W`, or nothing but white space. -/
def TurnOf (cfg : Settings) (W : Subject → Prop) (g g' : Globals) : Prop :=
  Tidied g.xstate g'.xstate ∨ ∃ w, W w ∧ Turn cfg w g.xstate g'.xstate

/-- The event is about one of `W`; an answer is about a call in progress. -/
def DaemonEvent.About (W : Subject → Prop) : DaemonEvent → Prop
  | .available _ _ device => W (Announcement.subject device)
  | .answer _ => True
  | .unavailable _ _ sno => W (.leaving sno)
  | .lastChange _ udn _ _ => ∀ id ∈ udn.bind udnId, W (.udn id)

section Daemon

variable {cfg : Settings} {W : Subject → Prop} {x y : Daemon}
  {e : DaemonEvent} {es : List DaemonEvent}

theorem turnOf_refl (g : Globals) : TurnOf cfg W g g := Or.inl (.refl _)

theorem turns_plain {f : XState → Option XState} {c : Handler}
    (hf : ∀ s s', f s = some s' →
      Tidied s s' ∨ ∃ w, W w ∧ Turn cfg w s s')
    (hc : ∀ g, c.Turns (TurnOf cfg W) g g) (g : Globals) :
    (Handler.plain f c).Turns (TurnOf cfg W) g g := by
  rw [Handler.plain, Callback.Turns]
  split
  · rename_i s' hs'
    exact hf _ _ hs'
  · exact hc g

theorem turns_available {io : Io} {cp : ControlPoint}
    {device : Option Announcement} (hw : W (Announcement.subject device))
    (g : Globals) :
    (Handler.available cfg io cp device).Turns (TurnOf cfg W) g g := by
  refine (turnsAbout_available cp device g g (.refl _)).mono ?_
  exact fun _ _ h => Or.inr ⟨_, hw, h⟩

theorem eventTurns_loop (he : e.About W) :
    MainLoop.EventTurns (TurnOf cfg W) (e.loop cfg) := by
  cases e with
  | available io cp device => exact turns_available he
  | answer o => exact trivial
  | unavailable io cp sno =>
      exact turns_plain (fun s s' h => Or.inr ⟨_, he, turn_unavailable h⟩)
        fun _ => trivial
  | lastChange io udn v value =>
      refine turns_plain (fun s s' h => ?_) fun g => turnOf_refl g
      rcases turn_lastChange h with hsame | ⟨id, hid, hturn⟩
      · exact Or.inl hsame
      · exact Or.inr ⟨_, he id hid, hturn⟩

/-- The calls in progress are about some of `W`. -/
abbrev CallsAbout (cfg : Settings) (W : Subject → Prop) (x : Daemon) : Prop :=
  x.CallsTurn (TurnOf cfg W)

/-- **One turn**, whichever callbacks are in progress. -/
theorem daemon_turn (he : e.About W) (hx : CallsAbout cfg W x)
    (h : daemonStep cfg x e = some y) : TurnOf cfg W x.globals y.globals :=
  MainLoop.turns_step turnOf_refl (eventTurns_loop he) hx h

/-- The calls a run has begun are about the devices that have come. -/
theorem callsAbout_run
    (hes : ∀ io cp device, DaemonEvent.available io cp device ∈ es →
      W (Announcement.subject device))
    (hx : CallsAbout cfg W x) (h : runFrom (daemonStep cfg) x es = some y) :
    CallsAbout cfg W y := by
  rw [daemon_run] at h
  refine MainLoop.calls_run (fun c hc => ?_) hx h
  obtain ⟨e, he, hloop⟩ := List.mem_map.mp hc
  cases e with
  | available io cp device =>
      obtain rfl := LoopEvent.call.inj hloop
      exact turns_available (hes io cp device he)
  | answer o => cases hloop
  | unavailable io cp sno => cases hloop
  | lastChange io udn v value => cases hloop

/-- **Invariants of the daemon**: what the turns about `W` preserve, a run of
events about `W` does. -/
theorem daemon_invariant {J : XState → Prop}
    (htidied : ∀ s s', J s → Tidied s s' → J s')
    (hturn : ∀ s s' w, W w → J s → Turn cfg w s s' → J s')
    (hes : ∀ e ∈ es, e.About W) (hx : CallsAbout cfg W x)
    (hs : J x.globals.xstate) (h : runFrom (daemonStep cfg) x es = some y) :
    J y.globals.xstate := by
  rw [daemon_run] at h
  refine MainLoop.turns_invariant (R := TurnOf cfg W)
    (J := fun g : Globals => J g.xstate) turnOf_refl ?_ (fun e he => ?_) hx hs h
  · rintro g g' hg (hsame | ⟨w, hw, ht⟩)
    · exact htidied _ _ hg hsame
    · exact hturn _ _ w hw hg ht
  · obtain ⟨e, he', rfl⟩ := List.mem_map.mp he
    exact eventTurns_loop (hes e he')

/-- Every event is about somebody. -/
theorem about_any (e : DaemonEvent) : e.About fun _ => True := by
  cases e with
  | lastChange io udn v value => exact fun _ _ => trivial
  | _ => trivial

/-- **From the start on**, whatever the events are. -/
theorem daemon_reaches {J : XState → Prop}
    (htidied : ∀ s s', J s → Tidied s s' → J s')
    (hturn : ∀ s s' w, J s → Turn cfg w s s' → J s')
    {serialNumber : Option CStr} (hstart : J (startState serialNumber))
    (h : runFrom (daemonStep cfg) (startDaemon serialNumber) es = some x) :
    J x.globals.xstate :=
  daemon_invariant (W := fun _ => True) htidied
    (fun s s' w _ => hturn s s' w) (fun e _ => about_any e)
    (fun _ hf => absurd hf List.not_mem_nil) hstart h

end Daemon

end Xupnp.Discovery
