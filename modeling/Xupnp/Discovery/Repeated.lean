import Xupnp.Discovery.GatewayCount
import Xupnp.Discovery.OwnAddress

/-!
# A notification that comes twice

`on_last_change` compares what it is told with what is stored, and publishes
only what is new. A playback URL may be stored with the daemon's own address
replaced, and the comparison is with the URL as it was sent:
`onLastChange_twice_iff` says when the second of two equal notifications does
nothing.
-/

namespace Xupnp.Discovery

open Xupnp.Library

/-! ## What a publication does to a record -/

/-- The fields a publication may strip. -/
def GwyDeviceData.Field.published : GwyDeviceData.Field → Prop
  | .serialNum | .playbackurl | .receiverid => False
  | _ => True

/-- What a publication may do to a record: strip fields, and mark that a route is
set. -/
inductive Touched (d : GwyDeviceData) : GwyDeviceData → Prop
  | refl : Touched d d
  | strip {d' : GwyDeviceData} (h : Touched d d') (f : GwyDeviceData.Field)
      (hf : f.published) : Touched d (d'.strip f)
  | mark {d' : GwyDeviceData} (h : Touched d d') (b : Bool) :
      Touched d (d'.markRoute b)

section Touched

variable {cfg : Settings} {d d' d'' : GwyDeviceData}

theorem Touched.trans (h : Touched d d') (h' : Touched d' d'') :
    Touched d d'' := by
  induction h' with
  | refl => exact h
  | strip _ f hf ih => exact ih.strip f hf
  | mark _ b ih => exact ih.mark b

/-- What no strip and no mark changes is kept. -/
theorem Touched.keeps {α : Type} {g : GwyDeviceData → α}
    (hstrip : ∀ d f, f.published → g (d.strip f) = g d)
    (hmark : ∀ d b, g (d.markRoute b) = g d) (h : Touched d d') :
    g d' = g d := by
  induction h with
  | refl => rfl
  | strip _ f hf ih => rw [hstrip _ f hf, ih]
  | mark _ b ih => rw [hmark, ih]

theorem gwSetupGate_touched (slotLeft : Bool) (d : GwyDeviceData) :
    Touched d (gwSetupGate cfg slotLeft d).2 := by
  have hdns : Touched d (d.strip .dnsconfig) := Touched.refl.strip _ trivial
  have hhosts := hdns.strip .etchosts trivial
  have hip := hhosts.strip .gwyip trivial
  unfold gwSetupGate
  split
  · exact .refl
  split
  · exact hdns
  dsimp only
  split
  · exact hhosts
  split
  · exact hip
  · exact hip.strip .gwyipv6 trivial

theorem publishDevice_touched (p : Publication) (d : GwyDeviceData) :
    Touched d (publishDevice cfg p d).2 := by
  have htype : Touched d (d.strip .devicetype) := Touched.refl.strip _ trivial
  have hgate : ∀ slotLeft,
      Touched d (gwSetupGate cfg slotLeft (d.strip .devicetype)).2 :=
    fun slotLeft => htype.trans (gwSetupGate_touched slotLeft _)
  have hmarked := fun slotLeft =>
    ((hgate slotLeft).mark cfg.enableRoute).strip .ipv6Prefix trivial
  rw [publishDevice]
  dsimp only
  split
  · dsimp only
    split
    · exact (hmarked _).strip .dsgtimezone trivial
    · exact hmarked _
  · exact hgate _

/-- A publication keeps the records where they are. -/
theorem publishDevices_append (p : Publication) (pre : List GwyDeviceData)
    (d : GwyDeviceData) (post : List GwyDeviceData) :
    ∃ pre' d' post',
      (publishDevices cfg p (pre ++ d :: post)).2 = pre' ++ d' :: post' ∧
        (∀ e' ∈ pre', ∃ e ∈ pre, Touched e e') ∧ Touched d d' := by
  induction pre generalizing p with
  | nil =>
      refine ⟨[], _, _, rfl, ?_, publishDevice_touched p d⟩
      intro e he
      cases he
  | cons e pre ih =>
      obtain ⟨pre', d', post', heq, hpre, hd⟩ := ih (publishDevice cfg p e).1
      refine ⟨(publishDevice cfg p e).2 :: pre', d', post', ?_, ?_, hd⟩
      · show (publishDevice cfg p e).2 ::
          (publishDevices cfg (publishDevice cfg p e).1 (pre ++ d :: post)).2 = _
        rw [heq]
        rfl
      · intro e' he'
        rcases List.mem_cons.mp he' with rfl | he'
        · exact ⟨e, List.mem_cons_self, publishDevice_touched p e⟩
        · obtain ⟨c, hc, hce⟩ := hpre e' he'
          exact ⟨c, List.mem_cons_of_mem e hc, hce⟩

theorem sendDiscoveryResult_append (io : Io) {s : XState}
    {pre post : List GwyDeviceData} (hs : s.xdevlist = pre ++ d :: post) :
    ∃ pre' d' post',
      (sendDiscoveryResult cfg io s).xdevlist = pre' ++ d' :: post' ∧
        (∀ e' ∈ pre', ∃ e ∈ pre, Touched e e') ∧ Touched d d' := by
  have hserial : (if s.bSerialNum then s else getserialnum io s).xdevlist =
      pre ++ d :: post :=
    (getserialnum_keeps (fun _ _ => rfl) io s).trans hs
  rw [sendDiscoveryResult]
  dsimp only
  rw [hserial]
  exact publishDevices_append _ pre d post

end Touched

/-! ## Searching again -/

section Search

variable {touch f : GwyDeviceData → GwyDeviceData} {hit : GwyDeviceData → Bool}
  {pre post : List GwyDeviceData} {d : GwyDeviceData}

theorem listFindCustom_append (hhit : ∀ d, hit (touch d) = hit d)
    (hpre : ∀ e ∈ pre, hit e = false) (hd : hit d = true) :
    listFindCustom touch hit (pre ++ d :: post) =
      (pre.map touch ++ touch d :: post, some (touch d)) := by
  induction pre with
  | nil =>
      show listFindCustom touch hit (d :: post) = _
      rw [listFindCustom, hhit, hd]
      rfl
  | cons e pre ih =>
      have he : hit e = false := hpre e List.mem_cons_self
      show listFindCustom touch hit (e :: (pre ++ d :: post)) = _
      rw [listFindCustom, hhit, he, ih fun c hc =>
        hpre c (List.mem_cons_of_mem e hc)]
      rfl

theorem modifyFound_append (hpre : ∀ e ∈ pre, hit e = false)
    (hd : hit d = true) :
    modifyFound hit f (pre ++ d :: post) = pre ++ f d :: post := by
  induction pre with
  | nil => exact if_pos hd
  | cons e pre ih =>
      show modifyFound hit f (e :: (pre ++ d :: post)) = _
      rw [modifyFound, hpre e List.mem_cons_self, ih fun c hc =>
        hpre c (List.mem_cons_of_mem e hc)]
      rfl

/-- A search that finds a record has it behind others that do not match. -/
theorem listFindCustom_split (hhit : ∀ d, hit (touch d) = hit d)
    {l ds : List GwyDeviceData}
    (h : listFindCustom touch hit l = (ds, some d)) :
    ∃ (pre post : List GwyDeviceData) (c : GwyDeviceData),
      d = touch c ∧ hit d = true ∧ ds = pre.map touch ++ d :: post ∧
        ∀ e ∈ pre.map touch, hit e = false := by
  have hfind := listFindCustom_find hhit l
  rw [h, eq_comm, Option.map_eq_some_iff] at hfind
  obtain ⟨c, hc, rfl⟩ := hfind
  obtain ⟨hhitc, pre, post, rfl, hpre⟩ := List.find?_eq_some_iff_append.mp hc
  have hpre' : ∀ e ∈ pre, hit e = false := fun e he => by simpa using hpre e he
  rw [listFindCustom_append hhit hpre' hhitc] at h
  refine ⟨pre, post, c, rfl, ?_, (Prod.mk.inj h).1.symm, ?_⟩
  · rw [hhit]
    exact hhitc
  · intro e he
    obtain ⟨e, hmem, rfl⟩ := List.mem_map.mp he
    rw [hhit]
    exact hpre' e hmem

end Search

/-! ## What is stored -/

/-- The field a variable is compared with. -/
def stored (v : Variable) (d : GwyDeviceData) : Option CStr :=
  match v with
  | .playbackUrl => some d.playbackurl
  | .systemIds => some d.systemids
  | .dataGatewayIPaddress => some d.dataGatewayIPaddress
  | .dnsConfig => some d.dnsconfig
  | .timeZone => some d.dsgtimezone
  | .ipSubNet => some d.ipSubNet
  | .other => none

/-- The record is the daemon's own, and the value a URL that is rewritten before
it is stored. -/
def Rewrites (cfg : Settings) (v : Variable) (value : CStr)
    (d : GwyDeviceData) : Prop :=
  v = .playbackUrl ∧ d.playbackurl ≠ value.strip ∧
    d.gwyip.strip = cfg.ipaddress.strip ∧
    value.strip.contains d.gwyip.strip = true ∧ d.gwyip.strip ≠ localHostIP

section Stored

variable {cfg : Settings} {v : Variable} {value x : CStr}
  {d d' : GwyDeviceData} {effects : List Effect}

/-- The notification tells nothing new if the value is stored. -/
theorem setVariable_none_iff :
    setVariable cfg v value d = .ok none ↔
      ∀ x, stored v d = some x → x = value.strip := by
  cases v with
  | playbackUrl =>
      rw [setVariable]
      split
      · rename_i h
        simp [stored, h]
      · rename_i h
        refine iff_of_false (fun hnone => ?_) fun hall => h (hall _ rfl).symm
        obtain ⟨_, -, hsome⟩ := except_bind_eq_ok.mp hnone
        cases hsome
  | other => simp [setVariable, stored]
  | _ => simp [setVariable, stored, eq_comm]

/-- What is stored is the value as it was sent, unless it is rewritten. -/
theorem setVariable_stored
    (h : setVariable cfg v value d = .ok (some (d', effects))) :
    stored v d' = some value.strip ↔ ¬ Rewrites cfg v value d := by
  have hset : ∀ {c : Prop} [Decidable c] {y : GwyDeviceData × List Effect},
      v ≠ .playbackUrl → stored v y.1 = some value.strip →
      Except.ok (ε := Stop) (if c then none else some y) =
        .ok (some (d', effects)) →
      (stored v d' = some value.strip ↔ ¬ Rewrites cfg v value d) := by
    intro c _ y hv hy h
    split at h
    · cases h
    · obtain rfl := Option.some.inj (Except.ok.inj h)
      exact iff_of_true hy fun hrew => hv hrew.1
  cases v with
  | playbackUrl =>
      rw [setVariable] at h
      split at h
      · cases h
      · rename_i hnew
        obtain ⟨d₁, hd₁, h⟩ := except_bind_eq_ok.mp h
        obtain ⟨rfl, -⟩ := Prod.mk.inj (Option.some.inj (Except.ok.inj h))
        rw [replaceLocalDeviceIp_eq] at hd₁
        have hgwyip : ({ d with playbackurl := value.strip } :
            GwyDeviceData).gwyip = d.gwyip := rfl
        rw [hgwyip] at hd₁
        split at hd₁
        · rename_i hown
          split at hd₁
          · cases hd₁
          · rename_i hne
            obtain rfl := Except.ok.inj hd₁
            show some (withLocalHost d.gwyip.strip value.strip) = _ ↔ _
            rw [Option.some_inj, withLocalHost_eq_self hne]
            unfold Rewrites
            simp only [true_and, ne_eq, eq_comm (b := value.strip), hnew,
              not_false_eq_true, hown, not_and_or, not_not, Bool.not_eq_true]
        · rename_i hother
          obtain rfl := Except.ok.inj hd₁
          exact iff_of_true rfl fun hrew => hother hrew.2.2.1
  | other => cases h
  | _ => exact hset (by simp) rfl h

theorem stored_strip (v : Variable) (d : GwyDeviceData)
    {f : GwyDeviceData.Field} (hf : f.published) :
    stored v (d.strip f) = stored v d ∨
      v ≠ .playbackUrl ∧ stored v (d.strip f) = (stored v d).map CStr.strip := by
  cases f with
  | dnsconfig =>
      cases v <;> first | exact Or.inl rfl | exact Or.inr ⟨by simp, rfl⟩
  | dsgtimezone =>
      cases v <;> first | exact Or.inl rfl | exact Or.inr ⟨by simp, rfl⟩
  | playbackurl => exact absurd hf id
  | _ => exact Or.inl (by cases v <;> rfl)

/-- Publishing does not change what has been stored. -/
theorem Touched.stored_eq (h : Touched d d')
    (hx : v = .playbackUrl ∨ ∀ x, stored v d = some x → x.strip = x) :
    stored v d' = stored v d := by
  induction h with
  | refl => rfl
  | mark _ b ih =>
      rw [← ih]
      cases v <;> rfl
  | @strip d' _ f hf ih =>
      rcases stored_strip v d' hf with hsame | ⟨hv, hstripped⟩
      · rw [hsame, ih]
      · rcases hx with rfl | hx
        · exact absurd rfl hv
        · rw [hstripped, ih]
          cases hd : stored v d with
          | none => rfl
          | some x => rw [Option.map_some, hx x hd]

/-- A notification fails only where a URL is rewritten. -/
theorem setVariable_error {e : Stop} (h : setVariable cfg v value d = .error e) :
    Rewrites cfg v value d := by
  cases v with
  | playbackUrl =>
      rw [setVariable] at h
      split at h
      · cases h
      · rename_i hnew
        have hgwyip : ({ d with playbackurl := value.strip } :
            GwyDeviceData).gwyip = d.gwyip := rfl
        rw [replaceLocalDeviceIp_eq, hgwyip] at h
        split at h
        · rename_i hown
          split at h
          · rename_i hempty
            refine ⟨rfl, fun heq => hnew heq.symm, hown, ?_, ?_⟩
            · rw [hempty, CStr.contains_iff]
              exact List.nil_infix
            · rw [hempty]
              decide
          · cases h
        · cases h
  | _ => cases h

end Stored

/-! ## Two deliveries -/

/-- The notification returns, and when it comes again it publishes nothing and
changes nothing. -/
def SecondIsSilent (cfg : Settings) (io io' : Io) (udn : Option CStr)
    (v : Variable) (value : CStr) (s : XState) : Prop :=
  ∃ s₁, onLastChange cfg io udn v value s = some s₁ ∧
    announces cfg udn v value s₁ = false ∧
    onLastChange cfg io' udn v value s₁ = some s₁

section Twice

variable {cfg : Settings} {io io' : Io} {udn : Option CStr} {v : Variable}
  {value id : CStr} {s s₁ : XState}

/-- The white space around the receiver id has been cut. -/
def IdStripped (d : GwyDeviceData) : Prop := d.receiverid.strip = d.receiverid

theorem strip_of_idStripped {d : GwyDeviceData} (h : IdStripped d) :
    d.strip .receiverid = d := by
  show { d with receiverid := d.receiverid.strip } = d
  rw [h]

theorem Touched.hasReceiverid {d d' : GwyDeviceData} (h : Touched d d') :
    hasReceiverid id d' = hasReceiverid id d := by
  refine h.keeps (fun d f hf => ?_) fun _ _ => rfl
  cases f <;> first | rfl | exact absurd hf not_false

theorem Touched.idStripped {d d' : GwyDeviceData} (h : Touched d d') :
    IdStripped d' ↔ IdStripped d := by
  refine iff_of_eq (h.keeps (fun d f hf => ?_) fun _ _ => rfl)
  cases f <;> first | rfl | exact absurd hf not_false

/-- A list the search has been through, up to the record it found. -/
structure Searched (id : CStr) (l : List GwyDeviceData) (d : GwyDeviceData) :
    Prop where
  split : ∃ pre post, l = pre ++ d :: post ∧
    ∀ e ∈ pre, hasReceiverid id e = false ∧ IdStripped e
  hit : hasReceiverid id d = true
  stripped : IdStripped d

/-- Searching again finds the same record and leaves the list alone. -/
theorem Searched.again {l : List GwyDeviceData} {d : GwyDeviceData}
    (h : Searched id l d) : listFindUdn id l = (l, some d) := by
  obtain ⟨⟨pre, post, rfl, hpre⟩, hhit, hstripped⟩ := h
  have hsame : pre.map (·.strip .receiverid) = pre := by
    conv_rhs => rw [← List.map_id pre]
    exact List.map_congr_left fun e he => strip_of_idStripped (hpre e he).2
  rw [listFindUdn, listFindCustom_append _ (fun e he => (hpre e he).1) hhit,
    hsame, strip_of_idStripped hstripped]
  intro e
  simp [hasReceiverid, GwyDeviceData.strip]

theorem searched_listFindUdn {l ds : List GwyDeviceData} {d : GwyDeviceData}
    (h : listFindUdn id l = (ds, some d)) : Searched id ds d := by
  have hhit : ∀ e : GwyDeviceData, hasReceiverid id (e.strip .receiverid) =
      hasReceiverid id e := by
    intro e
    simp [hasReceiverid, GwyDeviceData.strip]
  obtain ⟨pre, post, c, rfl, hd, rfl, hpre⟩ := listFindCustom_split hhit h
  refine ⟨⟨_, post, rfl, fun e he => ⟨hpre e he, ?_⟩⟩, hd, ?_⟩
  · obtain ⟨e, -, rfl⟩ := List.mem_map.mp he
    exact CStr.strip_strip _
  · exact CStr.strip_strip _

/-- What has been found can be changed in place, and the list be published. -/
theorem Searched.publish {d d' : GwyDeviceData} (io : Io)
    {ds : List GwyDeviceData} (h : Searched id ds d)
    (hid : d'.receiverid = d.receiverid)
    (hs : s.xdevlist = modifyFound (hasReceiverid id) (fun _ => d') ds) :
    ∃ d'', Touched d' d'' ∧
      Searched id (sendDiscoveryResult cfg io s).xdevlist d'' := by
  obtain ⟨⟨pre, post, rfl, hpre⟩, hhit, hstripped⟩ := h
  rw [modifyFound_append (fun e he => (hpre e he).1) hhit] at hs
  obtain ⟨pre', d'', post', hlist, hpre', hd''⟩ :=
    sendDiscoveryResult_append io hs
  refine ⟨d'', hd'', ⟨pre', post', hlist, fun e' he' => ?_⟩, ?_, ?_⟩
  · obtain ⟨e, he, htouched⟩ := hpre' e' he'
    rw [htouched.hasReceiverid, htouched.idStripped]
    exact hpre e he
  · rw [hd''.hasReceiverid, hasReceiverid, hid]
    exact hhit
  · rw [hd''.idStripped, IdStripped, hid]
    exact hstripped

/-- A notification for a listed device. -/
theorem onLastChange_found {ds : List GwyDeviceData} {d : GwyDeviceData}
    (hudn : udn.bind udnId = some id)
    (hf : listFindUdn id s.xdevlist = (ds, some d)) :
    onLastChange cfg io udn v value s =
      match setVariable cfg v value d with
      | .error _ => none
      | .ok none => some { s with xdevlist := ds }
      | .ok (some (gwdata, effects)) =>
          some (sendDiscoveryResult cfg io
            { s with
              xdevlist := modifyFound (hasReceiverid id) (fun _ => gwdata) ds
              trace := s.trace ++ effects }) := by
  rw [onLastChange, hudn]
  dsimp only
  rewrite [hf]
  rfl

/-- The second delivery, by what its search finds. -/
theorem second_silent_iff {d : GwyDeviceData} (hudn : udn.bind udnId = some id)
    (h : Searched id s₁.xdevlist d) :
    (announces cfg udn v value s₁ = false ∧
        onLastChange cfg io' udn v value s₁ = some s₁) ↔
      setVariable cfg v value d = .ok none := by
  rw [onLastChange_found hudn h.again, announces, hudn]
  dsimp only
  rewrite [h.again]
  dsimp only
  rcases setVariable cfg v value d with e | _ | r
  · simp
  · simp
  · simp

/-- The notification has come once, and told something new. -/
theorem stored_after_publish {d d' d'' : GwyDeviceData} {effects : List Effect}
    (hset : setVariable cfg v value d = .ok (some (d', effects)))
    (h : Touched d' d'') :
    setVariable cfg v value d'' = .ok none ↔ ¬ Rewrites cfg v value d := by
  have hstored := setVariable_stored hset
  have hv : v ≠ .other := by
    rintro rfl
    cases hset
  have hsame : stored v d'' = stored v d' := by
    apply h.stored_eq
    by_cases hurl : v = .playbackUrl
    · exact Or.inl hurl
    · right
      intro x hx
      rw [hstored.mpr fun hrew => hurl hrew.1] at hx
      obtain rfl := Option.some.inj hx
      exact CStr.strip_strip value
  rw [setVariable_none_iff, ← hstored, hsame]
  cases hd' : stored v d' with
  | none =>
      cases v with
      | other => exact absurd rfl hv
      | _ => cases hd'
  | some x => simp

/-- A search for nobody, done again. -/
theorem listFindUdn_absent {l ds : List GwyDeviceData}
    (h : listFindUdn id l = (ds, none)) : listFindUdn id ds = (ds, none) := by
  induction l generalizing ds with
  | nil =>
      obtain ⟨rfl, -⟩ := Prod.mk.inj h
      rfl
  | cons e l ih =>
      rw [listFindUdn, listFindCustom] at h
      dsimp only at h
      split at h
      · cases h
      · rename_i hmiss
        obtain ⟨rfl, hnone⟩ := Prod.mk.inj h
        have hrest := ih (Prod.ext rfl hnone)
        rw [listFindUdn] at hrest
        have htwice : (e.strip .receiverid).strip .receiverid =
            e.strip .receiverid := strip_of_idStripped (CStr.strip_strip _)
        rw [listFindUdn, listFindCustom, htwice, if_neg hmiss, hrest]

/-- The two deliveries to a listed device. -/
theorem twice_of_found {ds : List GwyDeviceData} {d : GwyDeviceData}
    (hudn : udn.bind udnId = some id)
    (hf : listFindUdn id s.xdevlist = (ds, some d)) :
    SecondIsSilent cfg io io' udn v value s ↔ ¬ Rewrites cfg v value d := by
  have hsearched := searched_listFindUdn hf
  unfold SecondIsSilent
  rw [onLastChange_found hudn hf]
  cases hset : setVariable cfg v value d with
  | error e =>
      refine iff_of_false ?_ (not_not_intro (setVariable_error hset))
      rintro ⟨s₁, h, -⟩
      cases h
  | ok r =>
      cases r with
      | none =>
          refine iff_of_true ⟨_, rfl, ?_⟩ ?_
          · exact (second_silent_iff hudn hsearched).mpr hset
          · rintro ⟨rfl, hnew, -⟩
            exact hnew (setVariable_none_iff.mp hset _ rfl)
      | some r =>
          obtain ⟨d', effects⟩ := r
          have hid : d'.receiverid = d.receiverid :=
            setVariable_map (fun _ _ _ _ _ _ _ _ _ _ _ => rfl) hset
          let t : XState := { s with
            xdevlist := modifyFound (hasReceiverid id) (fun _ => d') ds
            trace := s.trace ++ effects }
          obtain ⟨d'', htouched, hagain⟩ : ∃ d'', Touched d' d'' ∧
              Searched id (sendDiscoveryResult cfg io t).xdevlist d'' :=
            hsearched.publish io hid rfl
          have hsecond : (announces cfg udn v value
                (sendDiscoveryResult cfg io t) = false ∧
              onLastChange cfg io' udn v value (sendDiscoveryResult cfg io t) =
                some (sendDiscoveryResult cfg io t)) ↔
              setVariable cfg v value d'' = .ok none :=
            second_silent_iff hudn hagain
          rw [← stored_after_publish hset htouched, ← hsecond]
          constructor
          · rintro ⟨s₁, h, hsilent⟩
            obtain rfl := Option.some.inj h
            exact hsilent
          · intro hsilent
            exact ⟨_, rfl, hsilent⟩

/-- **When a notification that comes twice counts once.** The second one does
nothing, unless it is the playback URL of the daemon's own gateway and holds
the address that is replaced before it is stored. -/
theorem onLastChange_twice_iff (cfg : Settings) (io io' : Io)
    (udn : Option CStr) (v : Variable) (value : CStr) (s : XState) :
    SecondIsSilent cfg io io' udn v value s ↔
      ∀ id, udn.bind udnId = some id →
        ∀ d, (listFindUdn id s.xdevlist).2 = some d →
          ¬ Rewrites cfg v value d := by
  cases hudn : udn.bind udnId with
  | none =>
      refine iff_of_true ⟨s, ?_, ?_, ?_⟩ (fun id h => by cases h)
      · rw [onLastChange, hudn]
      · rw [announces, hudn]
      · rw [onLastChange, hudn]
  | some id =>
      have hid : (∀ id', some id = some id' →
          ∀ d, (listFindUdn id' s.xdevlist).2 = some d →
            ¬ Rewrites cfg v value d) ↔
          ∀ d, (listFindUdn id s.xdevlist).2 = some d →
            ¬ Rewrites cfg v value d := by simp
      rw [hid]
      cases hf : listFindUdn id s.xdevlist with
      | mk ds found =>
          cases found with
          | none =>
              have hagain := listFindUdn_absent hf
              refine iff_of_true ⟨{ s with xdevlist := ds }, ?_, ?_, ?_⟩
                (fun d h => by cases h)
              · rw [onLastChange, hudn]
                dsimp only
                rw [hf]
              · rw [announces, hudn]
                dsimp only
                rw [hagain]
              · rw [onLastChange, hudn]
                dsimp only
                rw [hagain]
          | some d =>
              rw [twice_of_found hudn hf]
              simp

/-- The daemon's own gateway, listed under the address it has. -/
def ownGatewayListed : List Event :=
  [⟨quietIo, .available .basicDevice (echoDevice "A" "10.0.0.1")⟩]

/-- Its new playback URL is published with every notification that brings
it. -/
theorem onLastChange_twice_fails :
    ∃ s, runFrom (step broadbandSettings) (startState none)
        ownGatewayListed = some s ∧
      ¬ SecondIsSilent broadbandSettings quietIo quietIo
        (some (.lit "uuid:7c1fc9a0")) .playbackUrl
        (.lit "http://10.0.0.1:8080/vldms/tuner") s := by
  have hrun : ((runFrom (step broadbandSettings) (startState none)
      ownGatewayListed).bind fun s =>
        (onLastChange broadbandSettings quietIo (some (.lit "uuid:7c1fc9a0"))
          .playbackUrl (.lit "http://10.0.0.1:8080/vldms/tuner") s).map
          fun s₁ => (s, announces broadbandSettings
            (some (.lit "uuid:7c1fc9a0")) .playbackUrl
            (.lit "http://10.0.0.1:8080/vldms/tuner") s₁)).map Prod.snd =
      some true := by decide +kernel
  obtain ⟨⟨s, b⟩, hbind, rfl⟩ := Option.map_eq_some_iff.mp hrun
  obtain ⟨s', hs', hfirst⟩ := Option.bind_eq_some_iff.mp hbind
  obtain ⟨s₁, hs₁, hpair⟩ := Option.map_eq_some_iff.mp hfirst
  obtain ⟨rfl, hannounces⟩ := Prod.mk.inj hpair
  refine ⟨s', hs', ?_⟩
  rintro ⟨s₂, hs₂, hsilent, -⟩
  rw [hs₁] at hs₂
  obtain rfl := Option.some.inj hs₂
  rw [hannounces] at hsilent
  cases hsilent

end Twice

end Xupnp.Discovery
