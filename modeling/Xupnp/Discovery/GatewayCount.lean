import Xupnp.Discovery.Steps
import Xupnp.Discovery.Trace
import Xupnp.Library.Assoc

/-!
# Counting gateways (`gatewayDetected`)

In builds with an XCAL server a publication adds one to `gatewayDetected` for
every gateway it prints, and `delete_gwyitem` takes one off for a gateway it
deletes. Nothing ever starts the count again, so a gateway that is published
twice is counted twice: `gatewayDetected_run_iff` says in which runs the
counter is the number of listed gateways.
-/

namespace Xupnp.Discovery

open Xupnp.Library Xupnp.WhiteList

/-- How many of the listed devices are gateways. -/
def gatewayCount (s : XState) : ℕ := s.xdevlist.countP (·.isgateway)

/-- The `if` in `verify_devices` behind which a partial discovery is followed
by a fresh look at the network. -/
def recoversPartialDiscovery (s : XState) (browserDisableEnableCounter : ℤ) :
    Bool :=
  s.partialDiscovery && s.gatewayDetected == 0
    && decide (browserDisableEnableCounter ≤ 2)

/-! ## The calls -/

/-- The calls that change the list or the counter. -/
inductive ListCall where
  | dev (op : DevOp)
  | lastChange (io : Io) (udn : Option CStr) (v : Variable) (value : CStr)

/-- One call. A notification may never return. -/
def listCall (cfg : Settings) (s : XState) : ListCall → Option XState
  | .dev op => some (devStep cfg s op)
  | .lastChange io udn v value => onLastChange cfg io udn v value s

/-- Does `on_last_change` publish? It does for a listed device that tells
something new. -/
def announces (cfg : Settings) (udn : Option CStr) (v : Variable)
    (value : CStr) (s : XState) : Bool :=
  match udn.bind udnId with
  | none => false
  | some receiverid =>
      match (listFindUdn receiverid s.xdevlist).2 with
      | none => false
      | some gwdata =>
          match setVariable cfg v value gwdata with
          | .ok (some _) => true
          | _ => false

/-- Is a publication pending? The callers of `delete_gwyitem` publish once it
has deleted a device, and every publication settles it. -/
def notePending (cfg : Settings) (s : XState) (c : ListCall) (_ : XState)
    (pending : Bool) : Bool :=
  match c with
  | .dev (.update _ _) => false
  | .dev (.delete io sno) => pending || (deleteGwyitem cfg io sno s).2
  | .dev (.publish _) => false
  | .lastChange _ udn v value => pending && !announces cfg udn v value s

/-- The calls, and whether a publication is pending after them. -/
def countedCall (cfg : Settings) :
    XState × Bool → ListCall → Option (XState × Bool) :=
  withHistory (listCall cfg) (notePending cfg)

/-- The counter is the number of listed gateways. -/
def Counted (s : XState) : Prop := s.gatewayDetected = gatewayCount s

instance (s : XState) : Decidable (Counted s) :=
  inferInstanceAs (Decidable (_ = _))

/-- A call that publishes finds no gateway listed, other than one it
replaces. -/
def FirstCount (cfg : Settings) (s : XState) : ListCall → Prop
  | .dev (.update _ d) => ∀ c ∈ s.xdevlist, c.isgateway = true → c.key = d.key
  | .dev (.delete _ _) => True
  | .dev (.publish _) => ∀ c ∈ s.xdevlist, c.isgateway = false
  | .lastChange _ udn v value =>
      announces cfg udn v value s = true →
        ∀ c ∈ s.xdevlist, c.isgateway = false

instance (cfg : Settings) (s : XState) :
    (c : ListCall) → Decidable (FirstCount cfg s c)
  | .dev (.update _ d) =>
      inferInstanceAs (Decidable (∀ c ∈ s.xdevlist, _ → c.key = d.key))
  | .dev (.delete _ _) => isTrue trivial
  | .dev (.publish _) =>
      inferInstanceAs (Decidable (∀ c ∈ s.xdevlist, _))
  | .lastChange _ _ _ _ => inferInstanceAs (Decidable (_ → _))

/-- What is expected of the counter: while no publication is pending it is the
number of listed gateways, and `verify_devices` then recovers from a partial
discovery exactly if no gateway is listed. -/
def GatewaysKnown (x : XState × Bool) : Prop :=
  x.2 = false →
    x.1.gatewayDetected = gatewayCount x.1 ∧
      ∀ k ≤ 2, recoversPartialDiscovery x.1 k = true ↔
        x.1.partialDiscovery = true ∧ ∀ d ∈ x.1.xdevlist, d.isgateway = false

/-! ## Counting -/

theorem gatewayCount_of_normal {s s' : XState}
    (h : s'.xdevlist.map GwyDeviceData.normal =
      s.xdevlist.map GwyDeviceData.normal) :
    gatewayCount s' = gatewayCount s := by
  have hcount : ∀ l : List GwyDeviceData,
      (l.map GwyDeviceData.normal).countP (·.isgateway) =
        l.countP (·.isgateway) := by
    intro l
    rw [List.countP_map]
    rfl
  rw [gatewayCount, ← hcount, h, hcount]
  rfl

theorem gatewayCount_eq_zero {s : XState} :
    gatewayCount s = 0 ↔ ∀ c ∈ s.xdevlist, c.isgateway = false := by
  simp [gatewayCount, List.countP_eq_zero]

/-- A right counter is 0 where no gateway is listed. -/
theorem Counted.eq_zero_iff {s : XState} (h : Counted s) :
    s.gatewayDetected = 0 ↔ ∀ c ∈ s.xdevlist, c.isgateway = false := by
  rw [h, ← gatewayCount_eq_zero]
  exact Nat.cast_eq_zero

/-! ## What a call does to the counter -/

section Publish

variable {cfg : Settings}

theorem noteSelf_gatewayDetected (s : XState) (d : GwyDeviceData) :
    (noteSelf s d).gatewayDetected = s.gatewayDetected := by
  unfold noteSelf
  split
  · rfl
  · dsimp only
    split <;> rfl

theorem noteIpMode_gatewayDetected (s : XState) (d : GwyDeviceData) :
    (noteIpMode s d).gatewayDetected = s.gatewayDetected := by
  unfold noteIpMode
  split <;> rfl

theorem publishDevice_gatewayDetected (hx : cfg.clientXcalServer = true)
    (p : Publication) (d : GwyDeviceData) :
    (publishDevice cfg p d).1.globals.gatewayDetected =
      p.globals.gatewayDetected + if d.isgateway then 1 else 0 := by
  have hgateway : (d.strip .devicetype).isgateway = d.isgateway := rfl
  have hadded : ∀ s : XState,
      (if cfg.clientXcalServer && (d.strip .devicetype).isgateway then
        { s with gatewayDetected := s.gatewayDetected + 1 }
      else s).gatewayDetected =
        s.gatewayDetected + if d.isgateway then 1 else 0 := by
    intro s
    rw [hx, Bool.true_and, hgateway]
    split
    · rfl
    · exact (add_zero _).symm
  rw [← hadded, publishDevice]
  dsimp only
  split
  · rw [noteIpMode_gatewayDetected]
    cases cfg.enableRoute <;> exact noteSelf_gatewayDetected _ _
  · exact noteSelf_gatewayDetected _ _

/-- **A publication adds every listed gateway once more.** -/
theorem sendDiscoveryResult_gatewayDetected
    (hx : cfg.clientXcalServer = true) (io : Io) (s : XState) :
    (sendDiscoveryResult cfg io s).gatewayDetected =
      s.gatewayDetected + gatewayCount s := by
  have hloop : ∀ (l : List GwyDeviceData) (p : Publication),
      (publishDevices cfg p l).1.globals.gatewayDetected =
        p.globals.gatewayDetected + l.countP (·.isgateway) := by
    intro l
    induction l with
    | nil =>
        intro p
        exact (add_zero _).symm
    | cons d l ih =>
        intro p
        rw [publishDevices]
        dsimp only
        rw [ih, publishDevice_gatewayDetected hx, List.countP_cons]
        split <;> push_cast <;> omega
  have hserial : ∀ s' : XState, s'.gatewayDetected = s.gatewayDetected →
      s'.xdevlist = s.xdevlist →
      (publishDevices cfg ⟨true, true, s'⟩
        s'.xdevlist).1.globals.gatewayDetected =
        s.gatewayDetected + gatewayCount s := by
    intro s' hcount hlist
    rw [hloop, hcount, hlist]
    rfl
  exact hserial (if s.bSerialNum then s else getserialnum io s)
    (getserialnum_keeps (fun _ _ => rfl) io s)
    (getserialnum_keeps (fun _ _ => rfl) io s)

theorem gatewayCount_publish (io : Io) (s : XState) :
    gatewayCount (sendDiscoveryResult cfg io s) = gatewayCount s :=
  gatewayCount_of_normal (sendDiscoveryResult_normal cfg io s)

/-- After a publication the count is right if it started from 0. -/
theorem counted_publish_iff (hx : cfg.clientXcalServer = true) (io : Io)
    (s : XState) :
    Counted (sendDiscoveryResult cfg io s) ↔ s.gatewayDetected = 0 := by
  rw [Counted, sendDiscoveryResult_gatewayDetected hx, gatewayCount_publish]
  omega

end Publish

section Delete

variable {cfg : Settings} {io : Io} {s : XState}

/-- A delete takes one off for the gateway it deletes. -/
theorem deleteGwyitem_gatewayDetected (hx : cfg.clientXcalServer = true)
    (sno : Option CStr) :
    (deleteGwyitem cfg io sno s).1.gatewayDetected =
      if ((s.xdevlist.map GwyDeviceData.normal).find? (hasSno sno)).any
          (·.isgateway) && s.gatewayDetected != 0 then
        s.gatewayDetected - 1
      else s.gatewayDetected := by
  have hfind := listFindSno_find sno s.xdevlist
  have hnormal : (s.xdevlist.map GwyDeviceData.normal).find? (hasSno sno) =
      (s.xdevlist.find? (hasSno sno)).map GwyDeviceData.normal := by
    rw [List.find?_map]
    congr 2
    funext d
    exact hasSno_normal d
  rw [hnormal]
  unfold deleteGwyitem
  split
  · rename_i ds gwdata hf
    rw [hf] at hfind
    obtain ⟨c, hc, rfl⟩ := Option.map_eq_some_iff.mp hfind.symm
    rw [hc, hx]
    rfl
  · rename_i ds hf
    rw [hf, eq_comm, Option.map_eq_none_iff] at hfind
    rw [hfind]
    rfl

/-- A right count stays right: the gateway deleted is one that was counted. -/
theorem counted_delete (hx : cfg.clientXcalServer = true) (h : Counted s)
    (sno : Option CStr) : Counted (deleteGwyitem cfg io sno s).1 := by
  have hcount : ∀ s : XState, gatewayCount s =
      (s.xdevlist.map GwyDeviceData.normal).countP (·.isgateway) := by
    intro s
    rw [List.countP_map]
    rfl
  unfold Counted at h ⊢
  rw [deleteGwyitem_gatewayDetected hx, hcount, deleteGwyitem_normal, h,
    hcount]
  cases hf : (s.xdevlist.map GwyDeviceData.normal).find? (hasSno sno) with
  | none =>
      rw [List.eraseP_of_forall_not fun d hd => List.find?_eq_none.mp hf d hd]
      rfl
  | some c =>
      rw [countP_eraseP hf, Option.any_some]
      cases c.isgateway with
      | false => simp
      | true =>
          -- The count before the delete is at least 1, so one is taken off.
          simp
          omega

end Delete

section Update

variable {cfg : Settings} {io : Io} {s : XState}

/-- An update inserts and publishes, once what it replaces is out of the
list. -/
theorem updateGwylist_eq (hx : cfg.clientXcalServer = true) (io : Io)
    (s : XState) (d : GwyDeviceData) :
    ∃ d' s₁, updateGwylist cfg io d s = insertAndPublish cfg io d' s₁ ∧
      s₁.xdevlist.map GwyDeviceData.normal =
        (s.xdevlist.map GwyDeviceData.normal).eraseP
          (hasSno (some d.serialNum)) ∧
      (Counted s → Counted s₁) := by
  have hlist := listFindSno_normal (some d.serialNum) s.xdevlist
  have hnone := listFindCustom_none (·.strip .serialNum)
    (hasSno (some d.serialNum)) s.xdevlist
  rw [← listFindSno] at hnone
  -- A change in place neither lists a gateway nor touches the counter.
  have hkept : ∀ s₀ : XState, s₀.gatewayDetected = s.gatewayDetected →
      s₀.xdevlist.map GwyDeviceData.normal =
        s.xdevlist.map GwyDeviceData.normal → Counted s → Counted s₀ := by
    intro s₀ hcount hnormal h
    rw [Counted, hcount, gatewayCount_of_normal hnormal]
    exact h
  rw [updateGwylist]
  cases hf : listFindSno (some d.serialNum) s.xdevlist with
  | mk ds found =>
      rw [hf] at hlist hnone
      cases found with
      | some stored =>
          have hmid : (modifyFound (hasSno (some d.serialNum))
              (·.strip .gwyip) ds).map GwyDeviceData.normal =
              s.xdevlist.map GwyDeviceData.normal := by
            refine Eq.trans (modifyFound_map fun e _ => ?_) hlist
            exact e.normal_strip .gwyip
          refine ⟨_, _, rfl, ?_, fun h => counted_delete hx ?_ _⟩
          · rw [deleteGwyitem_normal, hmid]
          · exact hkept _ rfl hmid h
      | none =>
          refine ⟨_, _, rfl, ?_, hkept _ rfl hlist⟩
          rw [← hlist, ← eraseP_normal,
            List.eraseP_of_forall_not fun e he => by simp [hnone rfl e he]]

/-- An update that starts from a right count ends with one if no other gateway
is listed. -/
theorem counted_update_iff (hx : cfg.clientXcalServer = true)
    (hs : s.xdevlist.Pairwise fun a b => a.key < b.key) (h : Counted s)
    (d : GwyDeviceData) :
    Counted (updateGwylist cfg io d s) ↔
      ∀ c ∈ s.xdevlist, c.isgateway = true → c.key = d.key := by
  obtain ⟨t, ht⟩ := Lists.of_sorted hs
  obtain ⟨d', s₁, heq, hlist, hcounted⟩ :=
    updateGwylist_eq hx io s d
  have herase : s₁.xdevlist.map GwyDeviceData.normal =
      (t.erase d.key).entries := by
    rw [hlist, ← eraseP_normal]
    exact ht.eraseP (some d.serialNum)
  -- The publication counts from what the delete has left.
  have hleft : Counted (updateGwylist cfg io d s) ↔
      ∀ c ∈ s₁.xdevlist, c.isgateway = false := by
    rw [heq, insertAndPublish, counted_publish_iff hx]
    exact (hcounted h).eq_zero_iff
  have hmem : ∀ c, c ∈ s₁.xdevlist.map GwyDeviceData.normal ↔
      c ∈ s.xdevlist.map GwyDeviceData.normal ∧ c.key ≠ d.key := by
    intro c
    rw [herase, SortedTable.mem_erase, ht]
  rw [hleft]
  constructor
  · intro hnone c hc hgateway
    by_contra hkey
    have hc' : c.normal ∈ s₁.xdevlist.map GwyDeviceData.normal :=
      (hmem _).mpr ⟨List.mem_map_of_mem hc, by rwa [c.key_normal]⟩
    obtain ⟨e, he, hnormal⟩ := List.mem_map.mp hc'
    have hsame : e.normal.isgateway = c.normal.isgateway := by rw [hnormal]
    have hfalse : c.isgateway = false := hsame.symm.trans (hnone e he)
    rw [hgateway] at hfalse
    cases hfalse
  · intro hreplaced c hc
    obtain ⟨hc', hkey⟩ := (hmem _).mp (List.mem_map_of_mem hc)
    obtain ⟨e, he, hnormal⟩ := List.mem_map.mp hc'
    have hsame : e.normal.isgateway = c.normal.isgateway := by rw [hnormal]
    refine Bool.eq_false_iff.mpr fun hgateway => hkey ?_
    rw [← hnormal, GwyDeviceData.key_normal]
    exact hreplaced e he (hsame.trans hgateway)

end Update

/-! ## Notifications -/

section LastChange

variable {cfg : Settings} {io : Io} {s : XState} {udn : Option CStr}
  {v : Variable} {value : CStr}

/-- **A notification.** It publishes once or not at all, and lists no other
devices or gateways than before. -/
theorem onLastChange_cases (cfg : Settings) (io : Io) (udn : Option CStr)
    (v : Variable) (value : CStr) (s : XState) :
    ∃ s₁, s₁.gatewayDetected = s.gatewayDetected ∧
      s₁.outputcontents = s.outputcontents ∧
      s₁.xdevlist.map (fun d => (d.key, d.isgateway)) =
        s.xdevlist.map (fun d => (d.key, d.isgateway)) ∧
      ((announces cfg udn v value s = true ∧
          onLastChange cfg io udn v value s =
            some (sendDiscoveryResult cfg io s₁)) ∨
        (announces cfg udn v value s = false ∧
          ∀ s', onLastChange cfg io udn v value s = some s' → s' = s₁)) := by
  unfold onLastChange announces
  cases udn.bind udnId with
  | none =>
      refine ⟨s, rfl, rfl, rfl, Or.inr ⟨rfl, fun s' h => ?_⟩⟩
      exact (Option.some.inj h).symm
  | some receiverid =>
      have hkept : (listFindUdn receiverid s.xdevlist).1.map
          (fun d => (d.key, d.isgateway)) =
          s.xdevlist.map fun d => (d.key, d.isgateway) := by
        refine listFindCustom_map ?_ s.xdevlist
        intro d
        rfl
      have hself := listFindCustom_find_self (·.strip .receiverid)
        (hasReceiverid receiverid) s.xdevlist
      rw [← listFindUdn] at hself
      dsimp only
      cases hf : listFindUdn receiverid s.xdevlist with
      | mk ds found =>
          rw [hf] at hkept hself
          have hquiet : ∀ s', some { s with xdevlist := ds } = some s' →
              s' = { s with xdevlist := ds } :=
            fun s' h => (Option.some.inj h).symm
          cases found with
          | none =>
              exact ⟨{ s with xdevlist := ds }, rfl, rfl, hkept,
                Or.inr ⟨rfl, hquiet⟩⟩
          | some gwdata =>
              dsimp only
              cases hset : setVariable cfg v value gwdata with
              | error e =>
                  exact ⟨s, rfl, rfl, rfl, Or.inr ⟨rfl, fun s' h => by cases h⟩⟩
              | ok change =>
                  cases change with
                  | none =>
                      exact ⟨{ s with xdevlist := ds }, rfl, rfl, hkept,
                        Or.inr ⟨rfl, hquiet⟩⟩
                  | some change =>
                      obtain ⟨gwdata', effects⟩ := change
                      refine ⟨_, ?_, ?_, ?_, Or.inl ⟨rfl, rfl⟩⟩
                      · rfl
                      · rfl
                      · refine (modifyFound_map fun d hd => ?_).trans hkept
                        obtain rfl := Option.some.inj (hself.symm.trans hd)
                        exact setVariable_map
                          (g := fun d => (d.key, d.isgateway))
                          (fun _ _ _ _ _ _ _ _ _ _ _ => rfl) hset

end LastChange

/-! ## Runs -/

section Runs

variable {cfg : Settings} {s s' : XState} {c : ListCall}

/-- A list of the same serial numbers and gateways counts the same, and is in
the same order. -/
theorem counted_of_map_eq {s₁ : XState}
    (hcount : s₁.gatewayDetected = s.gatewayDetected)
    (hlist : s₁.xdevlist.map (fun d => (d.key, d.isgateway)) =
      s.xdevlist.map (fun d => (d.key, d.isgateway))) :
    (Counted s → Counted s₁) ∧
      ((s.xdevlist.Pairwise fun a b => a.key < b.key) →
        s₁.xdevlist.Pairwise fun a b => a.key < b.key) := by
  constructor
  · intro h
    have hgateways := congrArg (List.countP fun x => x.2) hlist
    rw [List.countP_map, List.countP_map] at hgateways
    show s₁.gatewayDetected = (gatewayCount s₁ : ℤ)
    rw [hcount, h]
    exact congrArg Nat.cast hgateways.symm
  · intro hs
    have hpair := List.pairwise_map (f := fun d => (d.key, d.isgateway))
      (R := fun x y => x.1 < y.1) (l := s₁.xdevlist)
    rw [hlist, List.pairwise_map] at hpair
    exact hpair.mp hs

theorem listCall_sorted (hs : s.xdevlist.Pairwise fun a b => a.key < b.key)
    (h : listCall cfg s c = some s') :
    s'.xdevlist.Pairwise fun a b => a.key < b.key := by
  cases c with
  | dev op =>
      obtain rfl := Option.some.inj h
      exact devStep_sorted cfg hs op
  | lastChange io udn v value =>
      obtain ⟨s₁, hcount, -, hlist, hcall⟩ :=
        onLastChange_cases cfg io udn v value s
      have hs₁ := (counted_of_map_eq hcount hlist).2 hs
      rcases hcall with ⟨-, hsend⟩ | ⟨-, hquiet⟩
      · obtain rfl := Option.some.inj (hsend.symm.trans h)
        exact devStep_sorted cfg hs₁ (.publish io)
      · obtain rfl := hquiet s' h
        exact hs₁

/-- **One call.** It leads from a right count to a right count exactly when it
counts no gateway that is counted already. -/
theorem counted_call_iff (hx : cfg.clientXcalServer = true)
    (hs : s.xdevlist.Pairwise fun a b => a.key < b.key) (h : Counted s) :
    FirstCount cfg s c ↔ ∀ s', listCall cfg s c = some s' → Counted s' := by
  have hcall : ∀ s₁, listCall cfg s c = some s₁ →
      ((∀ s', listCall cfg s c = some s' → Counted s') ↔ Counted s₁) := by
    intro s₁ h₁
    rw [h₁]
    simp
  cases c with
  | dev op =>
      rw [hcall _ rfl]
      cases op with
      | update io d => exact (counted_update_iff hx hs h d).symm
      | delete io sno => exact iff_of_true trivial (counted_delete hx h sno)
      | publish io =>
          exact ((counted_publish_iff hx io s).trans h.eq_zero_iff).symm
  | lastChange io udn v value =>
      obtain ⟨s₁, hcount, -, hlist, hcases⟩ :=
        onLastChange_cases cfg io udn v value s
      rcases hcases with ⟨hann, hsend⟩ | ⟨hann, hquiet⟩
      · rw [hcall _ hsend, counted_publish_iff hx, hcount, h.eq_zero_iff]
        exact ⟨fun hc => hc hann, fun hc _ => hc⟩
      · refine iff_of_true (fun hyes => ?_) fun s' hs' => ?_
        · rw [hann] at hyes
          cases hyes
        · obtain rfl := hquiet s' hs'
          exact (counted_of_map_eq hcount hlist).1 h

/-- A call that leaves a publication pending has not published. -/
theorem counted_of_pending (hx : cfg.clientXcalServer = true) {p : Bool}
    (h : Counted s) (hc : listCall cfg s c = some s')
    (hp : notePending cfg s c s' p = true) : Counted s' := by
  cases c with
  | dev op =>
      obtain rfl := Option.some.inj hc
      cases op with
      | update io d => cases hp
      | delete io sno => exact counted_delete hx h sno
      | publish io => cases hp
  | lastChange io udn v value =>
      obtain ⟨s₁, hcount, -, hlist, hcases⟩ :=
        onLastChange_cases cfg io udn v value s
      rcases hcases with ⟨hann, -⟩ | ⟨-, hquiet⟩
      · simp [notePending, hann] at hp
      · obtain rfl := hquiet s' hc
        exact (counted_of_map_eq hcount hlist).1 h

/-- **The counter along a run.** It is what is expected of it in every state
exactly when every call that publishes finds no gateway listed, other than one
it replaces. -/
theorem gatewayDetected_run_iff (cfg : Settings)
    (hx : cfg.clientXcalServer = true) (n : Option CStr)
    (cs : List ListCall) :
    EveryState (countedCall cfg) GatewaysKnown (startState n, false) cs ↔
      AllSteps (countedCall cfg) (fun x c => FirstCount cfg x.1 c)
        (startState n, false) cs := by
  have hsorted : ∀ (x : XState × Bool) c y,
      (x.1.xdevlist.Pairwise fun a b => a.key < b.key) →
      countedCall cfg x c = some y →
        y.1.xdevlist.Pairwise fun a b => a.key < b.key :=
    fun x c y hs h => listCall_sorted hs (withHistory_eq_some.mp h).1
  have hstart : Counted (startState n) := rfl
  -- What `GatewaysKnown` says while no publication is pending always holds.
  rw [← everyState_iff (I := fun x => Counted x.1) hsorted ?_
    List.Pairwise.nil hstart]
  · constructor
    · refine everyState_strengthen hsorted ?_ List.Pairwise.nil hstart
      intro x c y _ hx' h hy
      obtain ⟨hcall, hpending⟩ := withHistory_eq_some.mp h
      cases hp : y.2 with
      | false => exact (hy hp).1
      | true => exact counted_of_pending hx hx' hcall (hpending.symm.trans hp)
    · refine EveryState.imp fun x hcount _ => ⟨hcount, fun k hk => ?_⟩
      rw [← hcount.eq_zero_iff]
      simp [recoversPartialDiscovery, hk]
  · intro x c hs hcount
    rw [counted_call_iff hx hs hcount]
    exact forall_withHistory.symm

/-- A gateway of this serial number. -/
def gatewayRecord (sno : String) : GwyDeviceData :=
  { initGwydata with serialNum := .lit sno, isgateway := true }

/-- A gateway that comes and goes is counted as it should be. -/
theorem gatewayDetected_run_once :
    EveryState (countedCall broadbandSettings) GatewaysKnown
      (startState none, false)
      [.dev (.update quietIo (gatewayRecord "G1")),
        .dev (.delete quietIo (some (.lit "G1"))), .dev (.publish quietIo)] := by
  apply (gatewayDetected_run_iff broadbandSettings rfl none _).mpr
  refine ⟨by decide, fun x hx => ⟨trivial, fun y hy => ⟨?_, ?_⟩⟩⟩
  · obtain rfl := Option.some.inj hx
    obtain rfl := Option.some.inj hy
    decide
  · intro _ _
    trivial

/-- A gateway that is published once more without having changed is counted
twice. -/
theorem gatewayDetected_run_twice :
    ¬ EveryState (countedCall broadbandSettings) GatewaysKnown
      (startState none, false)
      [.dev (.update quietIo (gatewayRecord "G1")), .dev (.publish quietIo)] := by
  intro h
  have hknown := (h _ _ (List.prefix_refl _) rfl rfl).1
  revert hknown
  decide

end Runs

end Xupnp.Discovery
