import Xupnp.Discovery.OwnAddress
import Xupnp.Discovery.Routing

/-!
# Mandatory data (`device_proxy_available_cb`)

A device that is asked for its data is listed if it answers all that is
mandatory, and otherwise nothing comes of it but a mark that the discovery is
partial: `available_mandatory_iff`. Two things a failed inquiry leaves behind
all the same: the search for the serial number has stripped those that are
listed, and a device whose announcement is passed over leaves no mark.
-/

namespace Xupnp.Discovery

open Xupnp.Library Xupnp.WhiteList

/-! ## What a device has to answer -/

/-- The type a device answers contains `XI`, in upper or lower case. -/
def answersXi (p : ServiceProxy) : Bool :=
  ((p.string .getDeviceType).getD .empty).strip.containsCase (.lit "XI")

/-- All mandatory requests succeed. -/
def AnswersMandatory (p : ServiceProxy) : Prop :=
  (p.boolean .getIsGateway).isSome ∧ (p.string .getBcastMacAddress).isSome ∧
    (answersXi p = false →
      (p.string .getBaseUrl).isSome ∧ (p.string .getBaseTrmUrl).isSome ∧
        (p.string .getPlaybackUrl).isSome ∧ (p.boolean .getRequiresTRM).isSome)

/-- The device is asked: it is not passed over by its UPC, has the service, and
has an id. -/
def Asked (cfg : Settings) (p : DeviceProxy) : Prop :=
  Asks cfg p .basicDevice ∧ (p.udn.bind udnId).isSome

/-- The address `replace_local_device_ip` compares with the daemon's own. -/
def answeredGwyip (p : ServiceProxy) : CStr :=
  if answersXi p then .empty else (p.string .getGatewayIP).getD .empty

/-- The inquiry looks for an empty address for ever. -/
def ReplacesForEver (cfg : Settings) (p : ServiceProxy) : Prop :=
  AnswersMandatory p ∧ cfg.clientXcalServer = false ∧
    cfg.ipaddress.strip = .empty ∧ (answeredGwyip p).strip = .empty

/-- The device is listed now, and the others are as they were, up to white
space and the mark of the route. -/
def Gains (s s' : XState) (sno : CStr) : Prop :=
  ∃ d : GwyDeviceData, d.key = sno.strip ∧
    s'.xdevlist.map GwyDeviceData.normal =
      (s.xdevlist.map GwyDeviceData.normal).orderedInsert
        (fun a b => a.key ≤ b.key) d.normal

/-! ## The inquiry -/

section Inquiry

variable {cfg : Settings} {p : ServiceProxy} {d d' : GwyDeviceData}

theorem mandatory_some {α : Type} {o : Option α} (h : o.isSome) :
    ∃ a, mandatory o = .ok a := by
  obtain ⟨a, rfl⟩ := Option.isSome_iff_exists.mp h
  exact ⟨a, rfl⟩

theorem mandatory_none {α : Type} {o : Option α} (h : ¬ o.isSome) :
    mandatory o = .error .refused := by
  cases o with
  | none => rfl
  | some a => exact absurd rfl h

/-- The requests for every kind of device. -/
theorem gwServicesHead_spec (p : ServiceProxy) (d : GwyDeviceData) :
    (¬ ((p.boolean .getIsGateway).isSome ∧
        (p.string .getBcastMacAddress).isSome) →
      gwServicesHead p d = .error .refused) ∧
    ((p.boolean .getIsGateway).isSome ∧
        (p.string .getBcastMacAddress).isSome →
      ∃ d', gwServicesHead p d = .ok d' ∧
        d'.devicetype =
          ((p.string .getDeviceType).getD d.devicetype).strip ∧
        d'.gwyip = d.gwyip ∧ d'.isOwnGateway = d.isOwnGateway) := by
  constructor
  · intro h
    by_cases hgw : (p.boolean .getIsGateway).isSome
    · obtain ⟨b, hb⟩ := mandatory_some hgw
      have hmac := mandatory_none fun hmac => h ⟨hgw, hmac⟩
      rw [gwServicesHead, hb, hmac]
      rfl
    · rw [gwServicesHead, mandatory_none hgw]
      rfl
  · rintro ⟨hgw, hmac⟩
    obtain ⟨b, hb⟩ := mandatory_some hgw
    obtain ⟨m, hm⟩ := mandatory_some hmac
    rw [gwServicesHead, hb, hm]
    exact ⟨_, rfl, rfl, rfl, rfl⟩

/-- The requests for a device whose type does not contain `XI`. -/
theorem gwServicesGateway_spec (p : ServiceProxy) (d : GwyDeviceData) :
    (¬ ((p.string .getBaseUrl).isSome ∧ (p.string .getBaseTrmUrl).isSome ∧
        (p.string .getPlaybackUrl).isSome ∧
        (p.boolean .getRequiresTRM).isSome) →
      gwServicesGateway p d = .error .refused) ∧
    ((p.string .getBaseUrl).isSome ∧ (p.string .getBaseTrmUrl).isSome ∧
        (p.string .getPlaybackUrl).isSome ∧
        (p.boolean .getRequiresTRM).isSome →
      ∃ d', gwServicesGateway p d = .ok d' ∧
        d'.gwyip = (p.string .getGatewayIP).getD d.gwyip ∧
        d'.isOwnGateway = d.isOwnGateway) := by
  constructor
  · intro h
    -- The first one that fails ends the inquiry.
    by_cases hbase : (p.string .getBaseUrl).isSome
    · obtain ⟨base, hb⟩ := mandatory_some hbase
      by_cases htrm : (p.string .getBaseTrmUrl).isSome
      · obtain ⟨trm, ht⟩ := mandatory_some htrm
        by_cases hplay : (p.string .getPlaybackUrl).isSome
        · obtain ⟨play, hp⟩ := mandatory_some hplay
          have hreq := mandatory_none fun hreq => h ⟨hbase, htrm, hplay, hreq⟩
          rw [gwServicesGateway, hb, ht, hp, hreq]
          rfl
        · rw [gwServicesGateway, hb, ht, mandatory_none hplay]
          rfl
      · rw [gwServicesGateway, hb, mandatory_none htrm]
        rfl
    · rw [gwServicesGateway, mandatory_none hbase]
      rfl
  · rintro ⟨hbase, htrm, hplay, hreq⟩
    obtain ⟨base, hb⟩ := mandatory_some hbase
    obtain ⟨trm, ht⟩ := mandatory_some htrm
    obtain ⟨play, hp⟩ := mandatory_some hplay
    obtain ⟨req, hr⟩ := mandatory_some hreq
    rw [gwServicesGateway, hb, ht, hp, hr]
    exact ⟨_, rfl, rfl, rfl⟩

/-- All requests, for a fresh record. -/
theorem gwServicesRequests_spec (p : ServiceProxy) {d : GwyDeviceData}
    (htype : d.devicetype = .empty) (hip : d.gwyip = .empty)
    (hown : d.isOwnGateway = false) :
    (¬ AnswersMandatory p →
      (gwServicesHead p d >>= gwServicesByType p) = .error .refused) ∧
    (AnswersMandatory p →
      ∃ d', (gwServicesHead p d >>= gwServicesByType p) = .ok d' ∧
        d'.gwyip = answeredGwyip p ∧ d'.isOwnGateway = false) := by
  obtain ⟨hrefused, hok⟩ := gwServicesHead_spec p d
  by_cases hhead : (p.boolean .getIsGateway).isSome ∧
      (p.string .getBcastMacAddress).isSome
  · obtain ⟨d₁, hd₁, htype₁, hip₁, hown₁⟩ := hok hhead
    have hxi : d₁.devicetype.containsCase (.lit "XI") = answersXi p := by
      rw [htype₁, htype]
      rfl
    rw [hd₁]
    show (¬ AnswersMandatory p → gwServicesByType p d₁ = _) ∧
      (AnswersMandatory p → ∃ d', gwServicesByType p d₁ = _ ∧ _)
    rw [gwServicesByType, hxi]
    by_cases h : answersXi p = true
    · rw [if_pos h]
      constructor
      · intro hno
        refine absurd ⟨hhead.1, hhead.2, fun hfalse => ?_⟩ hno
        rw [h] at hfalse
        cases hfalse
      · intro _
        refine ⟨_, rfl, ?_, ?_⟩
        · rw [answeredGwyip, if_pos h]
          exact hip₁.trans hip
        · exact hown₁.trans hown
    · rw [if_neg h]
      have hfalse : answersXi p = false := by simpa using h
      obtain ⟨hrefused', hok'⟩ := gwServicesGateway_spec p d₁
      constructor
      · intro hno
        exact hrefused' fun hgw => hno ⟨hhead.1, hhead.2, fun _ => hgw⟩
      · intro hall
        obtain ⟨d₂, hd₂, hip₂, hown₂⟩ := hok' (hall.2.2 hfalse)
        refine ⟨d₂, hd₂, ?_, ?_⟩
        · rw [hip₂, answeredGwyip, if_neg h, hip₁, hip]
        · rw [hown₂, hown₁, hown]
  · rw [hrefused hhead]
    refine ⟨fun _ => rfl, fun hall => ?_⟩
    exact absurd ⟨hall.1, hall.2.1⟩ hhead

/-- The requests, and what follows them. -/
theorem gwServicesData_eq (cfg : Settings) (p : ServiceProxy)
    (d : GwyDeviceData) :
    gwServicesData cfg p d =
      ((gwServicesHead p d >>= gwServicesByType p) >>= replaceUnlessServer cfg)
        >>= fun d' => .ok { d' with
          devFoundFlag := true, isDevRefactored := false } := by
  rw [bind_assoc, bind_assoc]
  rfl

/-- **The inquiry.** Without a mandatory answer there is no record, and with all
of them there is one, unless the daemon looks for an empty address. -/
theorem gwServicesData_spec (cfg : Settings) (p : ServiceProxy)
    {d : GwyDeviceData} (htype : d.devicetype = .empty)
    (hip : d.gwyip = .empty) (hown : d.isOwnGateway = false) :
    (¬ AnswersMandatory p → gwServicesData cfg p d = .error .refused) ∧
    (AnswersMandatory p → ¬ ReplacesForEver cfg p →
      ∃ d', gwServicesData cfg p d = .ok d') := by
  obtain ⟨hrefused, hok⟩ := gwServicesRequests_spec p htype hip hown
  rw [gwServicesData_eq]
  constructor
  · intro hno
    rw [hrefused hno]
    rfl
  · intro hall hends
    obtain ⟨d₂, hd₂, hip₂, hown₂⟩ := hok hall
    rw [hd₂]
    show ∃ d', (replaceUnlessServer cfg d₂ >>= _) = .ok d'
    rw [replaceUnlessServer, hown₂, Bool.or_false]
    by_cases hserver : cfg.clientXcalServer = true
    · rw [if_pos hserver]
      exact ⟨_, rfl⟩
    · rw [if_neg hserver, replaceLocalDeviceIp_eq, hip₂]
      split
      · rename_i hsame
        split
        · rename_i hempty
          refine absurd ⟨hall, by simpa using hserver, ?_, hempty⟩ hends
          rw [← hsame]
          exact hempty
        · exact ⟨_, rfl⟩
      · exact ⟨_, rfl⟩

/-- The inquiry that never ends. -/
theorem gwServicesData_forEver (h : ReplacesForEver cfg p)
    (htype : d.devicetype = .empty) (hip : d.gwyip = .empty)
    (hown : d.isOwnGateway = false) :
    gwServicesData cfg p d = .error .diverges := by
  obtain ⟨hall, hserver, hempty, hgwyip⟩ := h
  obtain ⟨d₂, hd₂, hip₂, hown₂⟩ :=
    (gwServicesRequests_spec p htype hip hown).2 hall
  have hreplace : replaceUnlessServer cfg d₂ = .error .diverges := by
    rw [replaceUnlessServer, hserver, hown₂, if_neg (by decide),
      replaceLocalDeviceIp_eq, hip₂, hgwyip, hempty, if_pos rfl, if_pos rfl]
  rw [gwServicesData_eq, hd₂]
  show (replaceUnlessServer cfg d₂ >>= _) = _
  rw [hreplace]
  rfl

end Inquiry

/-! ## The callback -/

section Callback

variable {cfg : Settings} {io : Io} {s : XState} {p : DeviceProxy} {sno : CStr}

/-- A search that finds nothing has touched every record. -/
theorem listFindCustom_touched {touch : GwyDeviceData → GwyDeviceData}
    {hit : GwyDeviceData → Bool} {l ds : List GwyDeviceData}
    (h : listFindCustom touch hit l = (ds, none)) : ds = l.map touch := by
  induction l generalizing ds with
  | nil => exact (Prod.mk.inj h).1.symm
  | cons d l ih =>
      rw [listFindCustom] at h
      dsimp only at h
      split at h
      · cases (Prod.mk.inj h).2
      · obtain ⟨rfl, hnone⟩ := Prod.mk.inj h
        exact congrArg (touch d :: ·) (ih (Prod.ext rfl hnone))

/-- What is listed for a device that was not listed yet. -/
theorem updateGwylist_new (d : GwyDeviceData)
    (hnew : ¬ Listed s d.serialNum.strip) :
    (updateGwylist cfg io d s).xdevlist.map GwyDeviceData.normal =
      (s.xdevlist.map GwyDeviceData.normal).orderedInsert
        (fun a b => a.key ≤ b.key) d.normal := by
  obtain ⟨ds, hf⟩ := listFindSno_of_not_listed hnew
  have hlist := listFindSno_list hf
  rw [updateGwylist]
  dsimp only
  rw [hf]
  dsimp only
  rw [insertAndPublish_normal, hlist]
  congr 1
  split
  · rfl
  · exact GwyDeviceData.normal_strip d .serialNum

/-- A device that is gained makes the list longer. -/
theorem not_gains {s' : XState} (h : s'.xdevlist.length = s.xdevlist.length) :
    ¬ Gains s s' sno := by
  rintro ⟨d, -, heq⟩
  have hlen := congrArg List.length heq
  rw [List.length_map, List.orderedInsert_length, List.length_map, h] at hlen
  omega

/-- An announcement that is passed over. -/
theorem available_not_asked (hsno : p.serialNumber = some sno)
    (hnew : ¬ Listed s sno.strip) (hasked : ¬ Asked cfg p) :
    step cfg s ⟨io, .available .basicDevice p⟩ = some s ∨
      step cfg s ⟨io, .available .basicDevice p⟩ =
        some { s with xdevlist := s.xdevlist.map (·.strip .serialNum) } := by
  obtain ⟨ds, hf⟩ := listFindSno_of_not_listed hnew
  obtain rfl := listFindCustom_touched hf
  rw [← hsno] at hf
  show deviceProxyAvailableCb cfg io p s = _ ∨
    deviceProxyAvailableCb cfg io p s = _
  unfold deviceProxyAvailableCb
  split
  · exact Or.inl rfl
  · rename_i hupc
    right
    rw [hf]
    dsimp only
    split
    · rename_i hservice
      have hudn : p.udn.bind udnId = none := by
        rw [← Option.not_isSome_iff_eq_none]
        exact fun hid => hasked ⟨⟨hupc, hservice⟩, hid⟩
      rw [addDevice, hsno, hudn]
    · rfl

end Callback

/-- **When a device is listed.** One that is not listed yet, and is asked, is
gained exactly if all mandatory requests succeed. Otherwise the serial numbers
listed are stripped, the discovery is marked as partial, and nothing else
changes. One that is not asked leaves everything as it is, up to that strip. -/
theorem available_mandatory_iff (cfg : Settings) (io : Io) {s : XState}
    {p : DeviceProxy} {sno : CStr} (hsno : p.serialNumber = some sno)
    (hnew : ¬ Listed s sno.strip) :
    (Asked cfg p → ¬ ReplacesForEver cfg (p.service .discovery) →
      ∃ s', step cfg s ⟨io, .available .basicDevice p⟩ = some s' ∧
        (Gains s s' sno ↔ AnswersMandatory (p.service .discovery)) ∧
        (¬ AnswersMandatory (p.service .discovery) →
          s' = { s with
            xdevlist := s.xdevlist.map (·.strip .serialNum)
            partialDiscovery := true })) ∧
    (¬ Asked cfg p →
      step cfg s ⟨io, .available .basicDevice p⟩ = some s ∨
        step cfg s ⟨io, .available .basicDevice p⟩ =
          some { s with xdevlist := s.xdevlist.map (·.strip .serialNum) }) := by
  refine ⟨fun hasked hends => ?_, available_not_asked hsno hnew⟩
  obtain ⟨hasks, hid⟩ := hasked
  obtain ⟨id, hudn⟩ := Option.isSome_iff_exists.mp hid
  obtain ⟨ds, hf⟩ := listFindSno_of_not_listed hnew
  have hlist := listFindSno_list hf
  obtain rfl := listFindCustom_touched hf
  rw [← hsno] at hf
  have hstep := (step_available (e := ⟨io, .available .basicDevice p⟩) cfg rfl
    hf).1 hasks
  rw [hstep, addDevice, hsno, hudn]
  dsimp only
  -- The record the requests fill.
  generalize hd₀ : ({ initGwydata with
    serialNum := if s.xdevlist.map (·.strip .serialNum) = [] then sno
      else sno.strip
    receiverid := id } : GwyDeviceData) = d₀
  obtain ⟨hrefused, hok⟩ := gwServicesData_spec cfg (p.service .discovery)
    (d := d₀) (by rw [← hd₀]; rfl) (by rw [← hd₀]; rfl) (by rw [← hd₀]; rfl)
  by_cases hall : AnswersMandatory (p.service .discovery)
  · obtain ⟨d, hd⟩ := hok hall hends
    have hinq : inquiry cfg p .basicDevice d₀ = .ok (d, []) := by
      rw [inquiry, hd]
      rfl
    rw [hinq]
    refine ⟨_, rfl, iff_of_true ?_ hall, fun hno => absurd hall hno⟩
    rw [← hd₀] at hinq
    have hkey : d.key = sno.strip := inquiry_key hinq
    refine ⟨d, hkey, ?_⟩
    rw [updateGwylist_new, ← hlist]
    · intro hl
      rw [GwyDeviceData.key] at hkey
      rw [hkey] at hl
      exact hnew ((listed_of_normal hlist).mp hl)
  · have hinq : inquiry cfg p .basicDevice d₀ = .error .refused := by
      rw [inquiry, hrefused hall]
      rfl
    rw [hinq]
    refine ⟨_, rfl, iff_of_false (not_gains ?_) hall, fun _ => rfl⟩
    exact List.length_map _

/-- The first device that comes and answers. -/
theorem available_mandatory_first :
    ∃ s', step broadbandSettings (startState none)
        ⟨quietIo, .available .basicDevice (echoDevice "A" "x")⟩ = some s' ∧
      Gains (startState none) s' (.lit "A") := by
  have hupc : ¬ (broadbandSettings.rfcEnabled ∧
      (echoDevice "A" "x").upc = some (.lit "10000")) := by decide
  have hasked : Asked broadbandSettings (echoDevice "A" "x") :=
    ⟨⟨hupc, rfl⟩, by decide⟩
  have hends : ¬ ReplacesForEver broadbandSettings
      ((echoDevice "A" "x").service .discovery) := fun h => by cases h.2.1
  obtain ⟨s', hs', hgains, -⟩ := (available_mandatory_iff broadbandSettings
    quietIo (s := startState none) (p := echoDevice "A" "x") rfl
    (by rw [Listed]; exact List.not_mem_nil)).1 hasked hends
  exact ⟨s', hs', hgains.mpr ⟨rfl, rfl, fun _ => ⟨rfl, rfl, rfl, rfl⟩⟩⟩

/-- It does not say whether it is a gateway. -/
def silentDevice : DeviceProxy :=
  { echoDevice "B" "x" with
    service := fun _ =>
      { echoService (.lit "x") with boolean := fun _ => none } }

/-- Devices that answer everything, but are passed over. -/
def passedOver : List DeviceProxy :=
  [{ echoDevice "B" "x" with upc := some (.lit "10000") },
    { echoDevice "B" "x" with hasService := fun _ => false },
    { echoDevice "B" "x" with udn := some (.lit "7c1fc9a0") }]

/-- A failed inquiry changes the serial number of the device listed before it,
and a device that is passed over leaves no mark. -/
theorem available_mandatory_fails :
    (runFrom (step broadbandSettings) (startState none)
      [⟨quietIo, .available .basicDevice (echoDevice " A" "x")⟩]).map
        (fun s => s.xdevlist.map (·.serialNum)) = some [.lit " A"] ∧
    (runFrom (step broadbandSettings) (startState none)
      [⟨quietIo, .available .basicDevice (echoDevice " A" "x")⟩,
        ⟨quietIo, .available .basicDevice silentDevice⟩]).map
        (fun s => s.xdevlist.map (·.serialNum)) = some [.lit "A"] ∧
    ∀ p ∈ passedOver, (step broadbandSettings (startState none)
      ⟨quietIo, .available .basicDevice p⟩).map
        (fun s => (s.xdevlist, s.partialDiscovery)) = some ([], false) := by
  decide +kernel

end Xupnp.Discovery
