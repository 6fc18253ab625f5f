import Xupnp.XcalDevice.SysEvents

/-!
# What subscribers and callers are told of `SystemIds`

With `useGliDiag` the ids are those the system manager reports, and a request
is answered with them. The subscribers are told of every id that is reported,
but not of the 0 that an error puts in its place. `systemIds_mirrored_iff` says
after which sequences of events they know what a request would be answered
with.
-/

namespace Xupnp.XcalDevice

open Xupnp.Library

/-! ## Reports and errors -/

/-- The id an event is about. -/
def StateId.idName : StateId → Option IdName
  | .channelmap => some .channelmap
  | .dacId => some .dac
  | .plantId => some .plant
  | .vodAd => some .vodserver
  | .tuneReady | .stbSerialNo | .timeZone | .dstOffset | .other => none

/-- The event reports a new value of the id. -/
def SysEvent.Reports (e : SysEvent) (k : IdName) : Prop :=
  e.stateId.idName = some k ∧ e.data.error = false ∧ e.data.state = 2 ∧
    e.data.payload.bytes.length > 0 ∧ isNum e.data.payload = true

/-- The event reports that the id is not to be had. -/
def SysEvent.Errs (e : SysEvent) (k : IdName) : Prop :=
  e.stateId.idName = some k ∧ e.data.error = true

instance (e : SysEvent) (k : IdName) : Decidable (e.Reports k) :=
  inferInstanceAs (Decidable (_ ∧ _ ∧ _ ∧ _ ∧ _))

instance (e : SysEvent) (k : IdName) : Decidable (e.Errs k) :=
  inferInstanceAs (Decidable (_ ∧ _))

/-- The value of an id after an event about it or another. -/
def idAfter (ulongMax : UInt64) (k : IdName) (n : UInt64) (e : SysEvent) :
    UInt64 :=
  if e.Reports k then CStr.strtoul ulongMax e.data.payload
  else if e.Errs k then 0
  else n

/-- The value of an id that was `n` at first, by the last event about it. -/
def lastReported (ulongMax : UInt64) (k : IdName) (n : UInt64)
    (es : List SysEvent) : UInt64 :=
  es.foldl (idAfter ulongMax k) n

/-- Every error is about an id that is 0 already, or some id is reported after
it. -/
def ErrorsHarmless (ulongMax : UInt64) (ids : SystemIds)
    (es : List SysEvent) : Prop :=
  ∀ pre e post k, es = pre ++ e :: post → e.Errs k →
    (∀ f ∈ post, ∀ j, ¬ f.Reports j) →
    lastReported ulongMax k (ids.get k) pre = 0

section Events

variable {e : SysEvent} {k j : IdName} {ids : SystemIds} {es : List SysEvent}
  {ulongMax : UInt64}

theorem SysEvent.Reports.not_errs (h : e.Reports k) : ¬ e.Errs j := by
  intro h'
  have herr := h'.2
  rw [h.2.1] at herr
  cases herr

theorem lastReported_concat (n : UInt64) :
    lastReported ulongMax k n (es ++ [e]) =
      idAfter ulongMax k (lastReported ulongMax k n es) e :=
  List.foldl_append ..

/-- A report makes up for all errors before it. -/
theorem errorsHarmless_concat_report (h : e.Reports k) :
    ErrorsHarmless ulongMax ids (es ++ [e]) := by
  intro pre e' post j heq herr hquiet
  cases post using List.reverseRecOn with
  | nil =>
      obtain ⟨-, he⟩ := List.append_inj' heq rfl
      rw [← (List.cons.inj he).1] at herr
      exact absurd herr h.not_errs
  | append_singleton post f =>
      rw [← List.cons_append, ← List.append_assoc] at heq
      obtain ⟨-, he⟩ := List.append_inj' heq rfl
      obtain rfl := (List.cons.inj he).1
      exact absurd h (hquiet e (by simp) k)

/-- Any other event leaves the errors before it as they are. -/
theorem errorsHarmless_concat (hquiet : ∀ j, ¬ e.Reports j) :
    ErrorsHarmless ulongMax ids (es ++ [e]) ↔
      ErrorsHarmless ulongMax ids es ∧
        ∀ k, e.Errs k → lastReported ulongMax k (ids.get k) es = 0 := by
  constructor
  · intro h
    constructor
    · intro pre e' post j heq herr hpost
      apply h pre e' (post ++ [e]) j (by rw [heq]; simp) herr
      intro f hf
      rcases List.mem_append.mp hf with hf | hf
      · exact hpost f hf
      · rw [List.mem_singleton.mp hf]
        exact hquiet
    · intro k hk
      exact h es e [] k rfl hk (by simp)
  · rintro ⟨hes, hlast⟩ pre e' post j heq herr hpost
    cases post using List.reverseRecOn with
    | nil =>
        obtain ⟨rfl, he⟩ := List.append_inj' heq rfl
        obtain rfl := (List.cons.inj he).1
        exact hlast j herr
    | append_singleton post f =>
        rw [← List.cons_append, ← List.append_assoc] at heq
        obtain ⟨rfl, -⟩ := List.append_inj' heq rfl
        exact hes pre e' post j rfl herr
          fun g hg => hpost g (List.mem_append_left _ hg)

end Events

/-! ## The text of the ids -/

/-- What `updatesystemids` writes with `useGliDiag`. -/
def gliText (ids : SystemIds) : CStr :=
  (updatesystemids ⟨true, none, 0⟩ ids .empty).2

section Text

variable {cfg : IdConfig} {ids ids' : SystemIds}

theorem updatesystemids_gli (h : cfg.useGliDiag = true) (systemids : CStr) :
    updatesystemids cfg ids systemids = (true, gliText ids) := by
  rw [updatesystemids, if_pos h]
  rfl

/-- The ids can be told from their text. -/
theorem gliText_injective : Function.Injective gliText := by
  have hulong : ∀ {m n : UInt64}, ulong m = ulong n → m = n := by
    intro m n h
    exact UInt64.toNat_inj.mp (CStr.digits_injective (congrArg CStr.bytes h))
  intro ids ids' h
  have hread : ∀ i, getUriIds (gliText i) = i.rendered := by
    intro i
    have hbytes : (gliText i).bytes = i.text := updatesystemids_bytes .empty rfl
    exact getUriIds_text hbytes
  have hrendered : ids.rendered = ids'.rendered := by
    rw [← hread, ← hread, h]
  simp only [SystemIds.rendered, UriIds.mk.injEq] at hrendered
  obtain ⟨h₁, h₂, h₃, h₄⟩ := hrendered
  cases ids
  cases ids'
  rw [SystemIds.mk.injEq]
  exact ⟨hulong h₁, hulong h₂, hulong h₃, hulong h₄⟩

theorem gliText_ne_empty : gliText ids ≠ .empty := by
  intro h
  have hbytes := congrArg CStr.bytes h
  have hlit : (CStr.lit "channelMapId:").bytes =
      0x63 :: CStr.ascii "hannelMapId:" := by decide
  simp [gliText, updatesystemids, hlit, CStr.empty] at hbytes

/-- The text fits into the buffers. -/
theorem gliText_length : (gliText ids).bytes.length < maxOutvalue := by
  have hdigits : ∀ n : UInt64, (ulong n).bytes.length ≤ 20 := by
    intro n
    apply CStr.length_digits_le (by decide)
    exact n.toNat_lt.trans (by decide)
  have hlits : (CStr.lit "channelMapId:").bytes.length = 13 ∧
      (CStr.lit ";controllerId:").bytes.length = 14 ∧
      (CStr.lit ";plantId:").bytes.length = 9 ∧
      (CStr.lit ";vodServerId:").bytes.length = 13 := by decide
  obtain ⟨h₁, h₂, h₃, h₄⟩ := hlits
  have hd₁ := hdigits ids.channelmapId
  have hd₂ := hdigits ids.dacId
  have hd₃ := hdigits ids.plantId
  have hd₄ := hdigits ids.vodserverId
  simp only [gliText, updatesystemids, if_true, CStr.bytes_append,
    List.length_append, h₁, h₂, h₃, h₄, maxOutvalue]
  omega

/-- A request is answered with the ids as they are. -/
theorem getSystemidsCb_gli (c : Copy) (h : cfg.useGliDiag = true)
    {s : XcalState} (hs : s.systemids ≠ .empty) (systemIds : CStr) :
    s.getSystemidsCb c cfg systemIds = gliText s.ids := by
  cases c with
  | videoLibrary =>
      show s.getSystemsIds cfg systemIds = _
      rw [XcalState.getSystemsIds, if_neg hs, updatesystemids_gli h]
      exact strcpied_of_lt gliText_length
  | xcalDevice =>
      show (updatesystemids cfg s.ids s.systemids).2 = _
      rw [updatesystemids_gli h]

end Text

/-! ## One event -/

theorem SystemIds.get_set (ids : SystemIds) (j k : IdName) (n : UInt64) :
    (ids.set k n).get j = if j = k then n else ids.get j := by
  cases j <;> cases k <;> rfl

theorem SystemIds.ext_get {ids ids' : SystemIds}
    (h : ∀ k, ids.get k = ids'.get k) : ids = ids' := by
  cases ids
  cases ids'
  rw [SystemIds.mk.injEq]
  exact ⟨h .channelmap, h .dac, h .plant, h .vodserver⟩

/-- Setting an id to what it is. -/
theorem SystemIds.set_get {ids : SystemIds} {k : IdName} {n : UInt64}
    (h : ids.get k = n) : ids.set k n = ids := by
  apply SystemIds.ext_get
  intro j
  rw [SystemIds.get_set]
  split
  · next hjk => rw [hjk, h]
  · rfl

/-- Whatever is said of other variables, and done to the tuning and the time
zone. -/
structure SameIds (s s' : XcalState) : Prop where
  ids : s'.ids = s.ids
  systemids : s'.systemids = s.systemids
  serviceReady : s'.serviceReady = s.serviceReady
  values : s'.values .systemIds = s.values .systemIds

theorem SameIds.refl (s : XcalState) : SameIds s s := ⟨rfl, rfl, rfl, rfl⟩

theorem SameIds.trans {s t u : XcalState} (h₁ : SameIds s t)
    (h₂ : SameIds t u) : SameIds s u :=
  ⟨h₂.ids.trans h₁.ids, h₂.systemids.trans h₁.systemids,
    h₂.serviceReady.trans h₁.serviceReady, h₂.values.trans h₁.values⟩

theorem sameIds_notify {v : EventedVariable} (hv : v ≠ .systemIds)
    (x : CStr) (s : XcalState) : SameIds s (s.notifyValueChange v x) :=
  ⟨notify_ids v x, notify_systemids v x, notify_serviceReady v x,
    values_notify_of_ne hv x s⟩

theorem sameIds_zoneEvent (c : Copy) (e : ZoneEvent) (s : XcalState) :
    SameIds s (s.zoneEvent c e) := by
  have hne : EventedVariable.timeZone ≠ .systemIds := by decide
  apply zoneEvent_frame (R := SameIds) SameIds.trans
  · exact fun s z => ⟨rfl, rfl, rfl, rfl⟩
  · exact fun s x => sameIds_notify hne x s

section OneEvent

variable {c : Copy} {cfg : XcalConfig} {s : XcalState} {e : SysEvent}
  {k : IdName}

theorem sameIds_tuneReadyEvent (hgli : cfg.useGliDiag = true) (e : SysEvent)
    (s : XcalState) : SameIds s (s.tuneReadyEvent cfg e) := by
  have hne : EventedVariable.playbackUrl ≠ .systemIds := by decide
  have hann : ∀ t : XcalState, SameIds t (t.announceTuning cfg e.diagFile) := by
    intro t
    rw [XcalState.announceTuning, if_pos hgli]
    exact sameIds_notify hne _ t
  have htune : SameIds s { s with tuneReady := e.data.state } :=
    ⟨rfl, rfl, rfl, rfl⟩
  unfold XcalState.tuneReadyEvent
  split
  · dsimp only
    split
    · split
      · exact htune.trans (hann _)
      · exact htune
    · exact htune.trans (hann _)
  · exact SameIds.refl s

theorem sysEventHandler_of_idName (h : e.stateId.idName = some k) :
    s.sysEventHandler c cfg e = s.idEvent cfg k e := by
  unfold XcalState.sysEventHandler
  cases hid : e.stateId
  all_goals
    rw [hid] at h
    cases h <;> rfl

/-- An event that neither reports an id nor fails to. -/
theorem sameIds_of_idle (hgli : cfg.useGliDiag = true)
    (hrep : ∀ k, ¬ e.Reports k) (herr : ∀ k, ¬ e.Errs k) :
    SameIds s (s.sysEventHandler c cfg e) := by
  cases hname : e.stateId.idName with
  | some k =>
      rw [sysEventHandler_of_idName hname, XcalState.idEvent,
        if_neg fun h => herr k ⟨hname, h⟩]
      split
      · next hstate =>
          rw [if_neg]
          · exact SameIds.refl s
          · intro hp
            apply hrep k
            refine ⟨hname, ?_, hstate, hp⟩
            exact Bool.eq_false_iff.mpr fun h => herr k ⟨hname, h⟩
      · exact SameIds.refl s
  | none =>
      unfold XcalState.sysEventHandler
      cases hid : e.stateId with
      | tuneReady => exact sameIds_tuneReadyEvent hgli e s
      | stbSerialNo => exact ⟨rfl, rfl, rfl, rfl⟩
      | timeZone | dstOffset => exact sameIds_zoneEvent _ _ _
      | other => exact SameIds.refl s
      | channelmap | dacId | plantId | vodAd =>
          rw [hid] at hname
          cases hname

/-- An error puts 0 in place of the id, and tells nobody. -/
theorem sysEventHandler_errs (h : e.Errs k) :
    s.sysEventHandler c cfg e = { s with ids := s.ids.set k 0 } := by
  rw [sysEventHandler_of_idName h.1, XcalState.idEvent, if_pos h.2]

theorem publishSystemIds_spec (idcfg : IdConfig) (hgli : idcfg.useGliDiag = true)
    (hready : s.serviceReady = true) :
    (s.publishSystemIds idcfg).ids = s.ids ∧
      (s.publishSystemIds idcfg).systemids = gliText s.ids ∧
      (s.publishSystemIds idcfg).serviceReady = true ∧
      (s.publishSystemIds idcfg).values .systemIds =
        s.values .systemIds ++ [gliText s.ids] := by
  rw [XcalState.publishSystemIds]
  simp only [XcalState.updateSystemids, updatesystemids_gli hgli]
  have hvalues := values_notify_of_ready
    (s := { s with systemids := gliText s.ids }) hready .systemIds .systemIds
    (gliText s.ids)
  rw [if_pos rfl] at hvalues
  exact ⟨notify_ids .systemIds _, notify_systemids .systemIds _,
    (notify_serviceReady .systemIds _).trans hready, hvalues⟩

/-- A report is passed on, with all the ids. -/
theorem sysEventHandler_reports (hgli : cfg.useGliDiag = true)
    (hready : s.serviceReady = true) (h : e.Reports k) :
    (s.sysEventHandler c cfg e).ids =
        s.ids.set k (CStr.strtoul cfg.ulongMax e.data.payload) ∧
      (s.sysEventHandler c cfg e).systemids =
        gliText (s.sysEventHandler c cfg e).ids ∧
      (s.sysEventHandler c cfg e).serviceReady = true ∧
      (s.sysEventHandler c cfg e).values .systemIds =
        s.values .systemIds ++ [gliText (s.sysEventHandler c cfg e).ids] := by
  obtain ⟨hname, herr, hstate, hpayload⟩ := h
  rw [sysEventHandler_of_idName hname, XcalState.idEvent,
    if_neg (by simp [herr]), if_pos hstate, if_pos hpayload]
  obtain ⟨hids, hsys, hready', hvalues⟩ := publishSystemIds_spec
    (s := { s with
      ids := s.ids.set k (CStr.strtoul cfg.ulongMax e.data.payload) })
    (cfg.idConfig e.diagFile) hgli hready
  rw [hids]
  exact ⟨rfl, hsys, hready', hvalues⟩

end OneEvent

/-! ## After the first notification -/

/-- The ids were `start` at first; after the events the subscribers have been
told of the ids `told` last. -/
structure Told (ulongMax : UInt64) (start : SystemIds) (es : List SysEvent)
    (s : XcalState) (told : SystemIds) : Prop where
  ready : s.serviceReady = true
  written : s.systemids ≠ .empty
  last : (s.values .systemIds).getLast? = some (gliText told)
  current : ∀ k, s.ids.get k = lastReported ulongMax k (start.get k) es
  zeroed : ∀ k, s.ids.get k = told.get k ∨ s.ids.get k = 0
  harmless : told = s.ids ↔ ErrorsHarmless ulongMax start es

section Runs

variable {c : Copy} {cfg : XcalConfig} {s : XcalState} {e : SysEvent}
  {start told : SystemIds} {es : List SysEvent} {k : IdName}

theorem idAfter_eq (ulongMax : UInt64) (hk : e.stateId.idName = some k)
    (j : IdName) (n : UInt64) :
    idAfter ulongMax j n e = if j = k then idAfter ulongMax k n e else n := by
  by_cases hjk : j = k
  · rw [if_pos hjk, hjk]
  · have hname : e.stateId.idName ≠ some j := by
      intro h
      exact hjk (Option.some.inj (h.symm.trans hk))
    rw [if_neg hjk, idAfter, if_neg fun h => hname h.1,
      if_neg fun h => hname h.1]

/-- A report tells the subscribers all the ids. -/
theorem told_report (hgli : cfg.useGliDiag = true)
    (hready : s.serviceReady = true)
    (hcurrent : ∀ j, s.ids.get j =
      lastReported cfg.ulongMax j (start.get j) es) (h : e.Reports k) :
    Told cfg.ulongMax start (es ++ [e]) (s.sysEventHandler c cfg e)
      (s.sysEventHandler c cfg e).ids := by
  obtain ⟨hids, hsys, hready', hvalues⟩ :=
    sysEventHandler_reports (c := c) hgli hready h
  refine ⟨hready', ?_, ?_, ?_, fun j => Or.inl rfl, ?_⟩
  · rw [hsys]
    exact gliText_ne_empty
  · rw [hvalues, List.getLast?_append]
    rfl
  · intro j
    rw [hids, SystemIds.get_set, lastReported_concat, ← hcurrent,
      idAfter_eq cfg.ulongMax h.1, idAfter, if_pos h]
  · exact iff_of_true rfl (errorsHarmless_concat_report h)

/-- An error takes the id from the subscribers, unless it was 0. -/
theorem Told.concat_errs (ht : Told cfg.ulongMax start es s told)
    (hk : e.Errs k) (hrep : ∀ j, ¬ e.Reports j) :
    Told cfg.ulongMax start (es ++ [e]) (s.sysEventHandler c cfg e) told := by
  have honly : ∀ j, e.Errs j ↔ j = k := by
    intro j
    constructor
    · exact fun hj => Option.some.inj (hj.1.symm.trans hk.1)
    · rintro rfl
      exact hk
  rw [sysEventHandler_errs hk]
  refine ⟨ht.ready, ht.written, ht.last, ?_, ?_, ?_⟩
  · intro j
    show (s.ids.set k 0).get j = _
    rw [SystemIds.get_set, lastReported_concat, ← ht.current,
      idAfter_eq cfg.ulongMax hk.1, idAfter, if_neg (hrep k), if_pos hk]
  · intro j
    show (s.ids.set k 0).get j = _ ∨ (s.ids.set k 0).get j = _
    rw [SystemIds.get_set]
    split
    · exact Or.inr rfl
    · exact ht.zeroed j
  · rw [errorsHarmless_concat hrep, ← ht.harmless]
    simp only [honly, forall_eq, ← ht.current]
    show told = s.ids.set k 0 ↔ _
    constructor
    · intro heq
      have hget : ∀ j, told.get j = if j = k then 0 else s.ids.get j := by
        intro j
        rw [heq, SystemIds.get_set]
      -- The id was 0 before, or the subscribers know another value of it.
      have hzero : s.ids.get k = 0 := by
        rcases ht.zeroed k with h | h
        · rw [h, hget, if_pos rfl]
        · exact h
      rw [heq, SystemIds.set_get hzero]
      exact ⟨rfl, hzero⟩
    · rintro ⟨rfl, hzero⟩
      exact (SystemIds.set_get hzero).symm

/-- Any other event leaves the ids alone. -/
theorem Told.concat_idle (hgli : cfg.useGliDiag = true)
    (ht : Told cfg.ulongMax start es s told) (hrep : ∀ j, ¬ e.Reports j)
    (herr : ∀ j, ¬ e.Errs j) :
    Told cfg.ulongMax start (es ++ [e]) (s.sysEventHandler c cfg e) told := by
  have hsame := sameIds_of_idle (c := c) (s := s) hgli hrep herr
  refine ⟨hsame.serviceReady.trans ht.ready, ?_, ?_, ?_, ?_, ?_⟩
  · rw [hsame.systemids]
    exact ht.written
  · rw [hsame.values]
    exact ht.last
  · intro j
    rw [hsame.ids, ht.current, lastReported_concat, idAfter, if_neg (hrep j),
      if_neg (herr j)]
  · rw [hsame.ids]
    exact ht.zeroed
  · rw [hsame.ids, ht.harmless, errorsHarmless_concat hrep]
    exact (and_iff_left fun j hj => absurd hj (herr j)).symm

/-- **One event more.** -/
theorem Told.concat (hgli : cfg.useGliDiag = true)
    (ht : Told cfg.ulongMax start es s told) (e : SysEvent) :
    ∃ told', Told cfg.ulongMax start (es ++ [e])
      (s.sysEventHandler c cfg e) told' := by
  by_cases hrep : ∃ k, e.Reports k
  · obtain ⟨k, hk⟩ := hrep
    exact ⟨_, told_report hgli ht.ready ht.current hk⟩
  by_cases herr : ∃ k, e.Errs k
  · obtain ⟨k, hk⟩ := herr
    exact ⟨told, ht.concat_errs hk (not_exists.mp hrep)⟩
  · exact ⟨told, ht.concat_idle hgli (not_exists.mp hrep)
      (not_exists.mp herr)⟩

theorem told_run (hgli : cfg.useGliDiag = true)
    (hready : s.serviceReady = true) (he : e.Reports k)
    (es : List SysEvent) :
    ∃ told, Told cfg.ulongMax s.ids (e :: es)
      ((e :: es).foldl (XcalState.sysEventHandler c cfg) s) told := by
  induction es using List.reverseRecOn with
  | nil =>
      have hstart : ∀ j, s.ids.get j =
          lastReported cfg.ulongMax j (s.ids.get j) [] := fun _ => rfl
      exact ⟨_, told_report hgli hready hstart he⟩
  | append_singleton es f ih =>
      obtain ⟨told, ht⟩ := ih
      rw [← List.cons_append, List.foldl_append]
      exact ht.concat hgli f

end Runs

/-- **Notifications and answers.** From the first notification of the system
ids on, the last one is what a request is answered with exactly if no error
since the last report took away an id that was not 0. -/
theorem systemIds_mirrored_iff (c : Copy) {cfg : XcalConfig}
    (hgli : cfg.useGliDiag = true) {s : XcalState}
    (hready : s.serviceReady = true) {first : SysEvent} {k : IdName}
    (hfirst : first.Reports k) (es : List SysEvent) :
    (∀ diagFile systemIds,
      (((first :: es).foldl (XcalState.sysEventHandler c cfg) s).values
          .systemIds).getLast? =
        some (((first :: es).foldl (XcalState.sysEventHandler c cfg)
          s).getSystemidsCb c (cfg.idConfig diagFile) systemIds)) ↔
      ErrorsHarmless cfg.ulongMax s.ids (first :: es) := by
  obtain ⟨told, ht⟩ := told_run (c := c) hgli hready hfirst es
  generalize (first :: es).foldl (XcalState.sysEventHandler c cfg) s = t at ht ⊢
  rw [← ht.harmless, ht.last]
  have hanswer : ∀ diagFile systemIds,
      t.getSystemidsCb c (cfg.idConfig diagFile) systemIds = gliText t.ids :=
    fun _ => getSystemidsCb_gli c hgli ht.written
  simp only [hanswer, Option.some.injEq, gliText_injective.eq_iff,
    forall_const]

def gliConfig : XcalConfig := ⟨false, true, false, 0xFFFFFFFF⟩

def idReport (id : StateId) (payload : CStr) : SysEvent :=
  ⟨id, ⟨false, 2, payload⟩, none⟩

def idFailure (id : StateId) : SysEvent := ⟨id, ⟨true, 0, .empty⟩, none⟩

/-- The controller id, never reported, cannot be had. -/
theorem systemIds_mirrored_unreported :
    (([idReport .channelmap (.lit "7"), idFailure .dacId].foldl
        (XcalState.sysEventHandler .videoLibrary gliConfig) inTune).values
        .systemIds).getLast? =
      some (([idReport .channelmap (.lit "7"), idFailure .dacId].foldl
        (XcalState.sysEventHandler .videoLibrary gliConfig)
        inTune).getSystemidsCb .videoLibrary (gliConfig.idConfig none)
          .empty) := by
  have hfirst : (idReport .channelmap (.lit "7")).Reports .channelmap := by
    decide
  have hquiet : ∀ j, ¬ (idFailure .dacId).Reports j := by
    intro j h
    cases h.2.1
  refine (systemIds_mirrored_iff .videoLibrary rfl rfl hfirst
    [idFailure .dacId]).mpr ?_ none .empty
  show ErrorsHarmless _ _ ([idReport .channelmap (.lit "7")] ++ [idFailure .dacId])
  have hreport : ErrorsHarmless gliConfig.ulongMax inTune.ids
      ([] ++ [idReport .channelmap (.lit "7")]) :=
    errorsHarmless_concat_report hfirst
  apply (errorsHarmless_concat hquiet).mpr
  refine ⟨hreport, ?_⟩
  intro k hk
  obtain rfl := Option.some.inj hk.1
  decide

/-- The channel map that was reported cannot be had any more. -/
theorem systemIds_mirrored_lost :
    (([idReport .channelmap (.lit "7"), idFailure .channelmap].foldl
        (XcalState.sysEventHandler .videoLibrary gliConfig) inTune).values
        .systemIds).getLast? = some (gliText ⟨7, 0, 0, 0⟩) ∧
      (∀ diagFile systemIds,
        ([idReport .channelmap (.lit "7"), idFailure .channelmap].foldl
          (XcalState.sysEventHandler .videoLibrary gliConfig)
          inTune).getSystemidsCb .videoLibrary (gliConfig.idConfig diagFile)
            systemIds = gliText ⟨0, 0, 0, 0⟩) ∧
      gliText ⟨7, 0, 0, 0⟩ ≠ gliText ⟨0, 0, 0, 0⟩ := by
  refine ⟨rfl, ?_, fun h => ?_⟩
  · intro diagFile systemIds
    have hne : gliText ⟨7, 0, 0, 0⟩ ≠ .empty := gliText_ne_empty
    exact getSystemidsCb_gli .videoLibrary rfl hne systemIds
  · exact absurd (gliText_injective h) (by decide)

end Xupnp.XcalDevice
