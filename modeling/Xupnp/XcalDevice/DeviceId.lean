import Xupnp.Library.FlatObject
import Xupnp.Library.Tokens

/-!
# Ids of the device (`getID`)

A script answers with a flat object of strings. The answer is cut at its
punctuation and its quotation marks, and the id is what is three parts behind a
part that has its name in it, if that is not empty. So it is in an object whose
strings have no punctuation in them, where no earlier string has the name in
it. `getID_iff` says when what is found is the value of the field.
-/

namespace Xupnp.XcalDevice

open Xupnp.Library Xupnp.Library.Json

/-! ## The code -/

/-- The delimiters, `"{}:,\""`. -/
def isIdDelim (b : UInt8) : Bool := b ∈ CStr.ascii "\x7b\x7d:,\""

/-- The loop over the tokens: `isDevIdPresent` and `value`. -/
def idTokenLoop (id : CStr) : CStr → List CStr → Bool × CStr
  | value, [] => (false, value)
  | value, token :: rest =>
      if token.strip.contains id then
        match rest[2]? with
        | some third =>
            if third.strip ≠ .empty then (true, third.strip)
            else idTokenLoop id third.strip rest
        | none => idTokenLoop id value rest
      else idTokenLoop id value rest

/-- `response`, a string in 1024 zeros of which `fread` fills all but one. -/
def response (output : Text) : CStr :=
  .ofBytes ((output.take 1023).takeWhile (· ≠ 0))

def maxDebugMessage : ℕ := 50

/-- `counter` and `value` -/
structure IdState where
  counter : ℕ
  value : CStr

/-- One turn of the loop in the video library: what it returns, if it does. In
warehouse mode there is a MAC address; the script may fail to start. -/
def getIDTurn (id : CStr) (bcastmac : Option CStr) (script : Option Text)
    (s : IdState) : Option CStr × IdState :=
  match bcastmac, script with
  | some mac, _ => (some mac, { s with value := mac })
  | none, none => (none, s)
  | none, some output =>
      if response output = .empty ∧ s.counter < maxDebugMessage then
        (none, { s with counter := s.counter + 1 })
      else
        let found := idTokenLoop id s.value ((response output).tokens isIdDelim)
        if found.1 || id.contains (.lit "partnerId") then
          (some found.2, { s with value := found.2 })
        else
          (none,
            { counter := if s.counter < maxDebugMessage then s.counter + 1
                else s.counter
              value := found.2 })

/-- `getID` of the broadband library, which runs the script once. -/
def getID (id : CStr) (script : Option Text) : CStr :=
  match script with
  | none => .empty
  | some output =>
      if response output = .empty then .empty
      else (idTokenLoop id .empty ((response output).tokens isIdDelim)).2

/-! ## The id of an answer -/

/-- What is found in an object is the value of the field, if it has one. -/
def IdServed (id : CStr) (output : Text) : Prop :=
  ∀ members value, Json.parse output = some (.obj members) →
    (id.bytes, .str value) ∈ members → value ≠ [] →
    (∀ s, ∃ v ∈ (getIDTurn id none (some output) s).1, v.bytes = value) ∧
      (getID id (some output)).bytes = value

/-- The parts of an object. -/
def idTokens (o : FlatObject Literal) : List CStr :=
  (o.parts isIdDelim).map CStr.ofBytes

/-- The first text that is not blank and comes with one that has the name in
it. -/
def firstOffer (id : CStr) (pairs : List (CStr × CStr)) : Option CStr :=
  (pairs.find? fun t => t.1.strip.contains id && t.2.strip ≠ .empty).map
    fun t => t.2.strip

/-- The parts, each with the one three further on. -/
def thirds (tokens : List CStr) : List (CStr × CStr) :=
  tokens.zip (tokens.drop 3)

/-- The first part that is not blank and three behind one with the name in
it. -/
def firstThird (id : CStr) (tokens : List CStr) : Option CStr :=
  firstOffer id (thirds tokens)

/-- A text with the name in it, and one that is not blank. -/
def IsOffer (id : CStr) (t : CStr × CStr) : Prop :=
  t.1.strip.contains id = true ∧ t.2.strip ≠ .empty

/-- The first of these has this value. -/
def OfferedFirst (id : CStr) (pairs : List (CStr × CStr)) (value : Text) :
    Prop :=
  ∃ pre t post, pairs = pre ++ t :: post ∧ (∀ u ∈ pre, ¬ IsOffer id u) ∧
    IsOffer id t ∧ t.2.strip.bytes = value

section Loop

variable {id value token a b third : CStr} {tokens post : List CStr}

theorem offeredFirst_iff {pairs : List (CStr × CStr)} {text : Text} :
    OfferedFirst id pairs text ↔
      ∃ v ∈ firstOffer id pairs, v.bytes = text := by
  have hoffer : ∀ t : CStr × CStr,
      (t.1.strip.contains id && decide (t.2.strip ≠ .empty)) = true ↔
        IsOffer id t := fun t => by
    rw [Bool.and_eq_true, decide_eq_true_eq]
    rfl
  have hnone : ∀ t : CStr × CStr,
      (!(t.1.strip.contains id && decide (t.2.strip ≠ .empty))) = true ↔
        ¬ IsOffer id t := fun t => by
    rw [← hoffer, Bool.not_eq_true', Bool.not_eq_true]
  constructor
  · rintro ⟨pre, t, post, hpairs, hpre, ht, htext⟩
    have hfind : pairs.find? (fun t => t.1.strip.contains id &&
        decide (t.2.strip ≠ .empty)) = some t :=
      List.find?_eq_some_iff_append.mpr ⟨(hoffer t).mpr ht, pre, post, hpairs,
        fun u hu => (hnone u).mpr (hpre u hu)⟩
    refine ⟨t.2.strip, ?_, htext⟩
    rw [firstOffer, hfind]
    rfl
  · rintro ⟨v, hv, htext⟩
    obtain ⟨t, hfind, rfl⟩ := Option.map_eq_some_iff.mp hv
    obtain ⟨ht, pre, post, hpairs, hpre⟩ :=
      List.find?_eq_some_iff_append.mp hfind
    exact ⟨pre, t, post, hpairs, fun u hu => (hnone u).mp (hpre u hu),
      (hoffer t).mp ht, htext⟩

theorem firstOffer_cons {pairs : List (CStr × CStr)} :
    firstOffer id ((token, third) :: pairs) =
      if token.strip.contains id = true ∧ third.strip ≠ .empty then
        some third.strip
      else firstOffer id pairs := by
  rw [firstOffer, List.find?_cons]
  by_cases hcond : token.strip.contains id = true ∧ third.strip ≠ .empty
  · rw [if_pos hcond]
    simp only [hcond.1, hcond.2, ne_eq, not_false_eq_true, decide_true,
      Bool.and_self, Option.map_some]
  · have hfalse : (token.strip.contains id &&
        decide (third.strip ≠ .empty)) = false := by
      rw [← decide_eq_true_eq (p := third.strip ≠ .empty),
        ← Bool.and_eq_true, Bool.not_eq_true] at hcond
      exact hcond
    rw [if_neg hcond]
    simp only [hfalse]
    rfl

theorem firstThird_cons :
    firstThird id (token :: a :: b :: third :: post) =
      if token.strip.contains id = true ∧ third.strip ≠ .empty then
        some third.strip
      else firstThird id (a :: b :: third :: post) :=
  firstOffer_cons

/-- There is nothing three further on. -/
theorem idTokenLoop_short (h : tokens.length ≤ 3) :
    idTokenLoop id value tokens = (false, value) := by
  induction tokens with
  | nil => rfl
  | cons token rest ih =>
      rw [List.length_cons] at h
      have hthird : rest[2]? = none :=
        List.getElem?_eq_none_iff.mpr (by omega)
      rw [idTokenLoop, hthird, ih (by omega), ite_self]

theorem firstThird_short (h : tokens.length ≤ 3) :
    firstThird id tokens = none := by
  rw [firstThird, thirds, List.drop_eq_nil_of_le h, List.zip_nil_right]
  rfl

theorem idTokenLoop_cons :
    idTokenLoop id value (token :: a :: b :: third :: post) =
      if token.strip.contains id = true ∧ third.strip ≠ .empty then
        (true, third.strip)
      else idTokenLoop id (if token.strip.contains id then third.strip
        else value) (a :: b :: third :: post) := by
  rw [idTokenLoop]
  cases token.strip.contains id with
  | false => simp
  | true =>
      by_cases hthird : third.strip = .empty
      · simp [hthird]
      · simp [hthird]

theorem idTokenLoop_some {v : CStr} (h : firstThird id tokens = some v) :
    idTokenLoop id value tokens = (true, v) := by
  induction tokens generalizing value with
  | nil => cases h
  | cons token rest ih =>
      rcases rest with _ | ⟨a, _ | ⟨b, _ | ⟨third, post⟩⟩⟩
      · cases h
      · cases h
      · cases h
      · rw [firstThird_cons] at h
        rw [idTokenLoop_cons]
        split at h
        · next hcond => rw [if_pos hcond, Option.some.inj h]
        · next hcond => rw [if_neg hcond, ih h]

theorem idTokenLoop_none (h : firstThird id tokens = none) :
    idTokenLoop id .empty tokens = (false, .empty) := by
  induction tokens with
  | nil => rfl
  | cons token rest ih =>
      rcases rest with _ | ⟨a, _ | ⟨b, _ | ⟨third, post⟩⟩⟩
      · exact idTokenLoop_short (by simp)
      · exact idTokenLoop_short (by simp)
      · exact idTokenLoop_short (by simp)
      · rw [firstThird_cons] at h
        rw [idTokenLoop_cons]
        split at h
        · cases h
        · next hcond =>
            have hvalue : (if token.strip.contains id then third.strip
                else .empty) = CStr.empty := by
              split
              · next hid => exact not_not.mp fun hne => hcond ⟨hid, hne⟩
              · rfl
            rw [if_neg hcond, hvalue, ih h]

end Loop

/-! ## The object -/

section Object

variable {id : CStr} {o : FlatObject Literal}

theorem isIdDelim_cutsObjects : CutsObjects isIdDelim where
  brace := by decide
  closing := by decide
  comma := by decide
  colon := by decide
  blank := forall_byte (by decide +kernel)

theorem response_render (hfits : o.render.length ≤ 1023) :
    response o.render = .ofBytes o.render := by
  rw [response, List.take_of_length_le hfits, List.takeWhile_eq_self_iff.mpr]
  exact fun b hb => decide_eq_true (ne_of_mem_of_not_mem hb o.nul_free)

theorem response_ne_empty (hfits : o.render.length ≤ 1023) :
    response o.render ≠ .empty := by
  rw [response_render hfits]
  intro h
  have hbytes := CStr.bytes_ofBytes o.nul_free
  rw [h] at hbytes
  exact o.render_ne_nil hbytes.symm

/-- Both libraries look through the parts of the object. -/
theorem getID_render (hfits : o.render.length ≤ 1023) :
    getID id (some o.render) = (idTokenLoop id .empty (idTokens o)).2 := by
  show (if response o.render = .empty then _ else _) = _
  rw [if_neg (response_ne_empty hfits), response_render hfits,
    tokens_render isIdDelim_cutsObjects]
  rfl

theorem getIDTurn_render (hfits : o.render.length ≤ 1023) {s : IdState}
    {v : CStr} (h : firstThird id (idTokens o) = some v) :
    (getIDTurn id none (some o.render) s).1 = some v := by
  have hne := response_ne_empty hfits
  rw [getIDTurn, if_neg fun h => hne h.1, response_render hfits,
    tokens_render isIdDelim_cutsObjects, ← idTokens, idTokenLoop_some h]
  rfl

/-- **The id.** It is the value of the field exactly if the first part that is
not blank and three behind one with the name in it is that value. -/
theorem getID_iff (id : CStr) (o : FlatObject Literal)
    (hfits : o.render.length ≤ 1023) :
    IdServed id o.render ↔
      ∀ f ∈ o.fields, f.name.text = id.bytes → f.value.text ≠ [] →
        OfferedFirst id (thirds (idTokens o)) f.value.text := by
  constructor
  · intro h f hf hname hvalue
    have hmember : (id.bytes, Value.str f.value.text) ∈ o.members := by
      rw [← hname]
      exact List.mem_map_of_mem (f := FlatField.member) hf
    have hfound := (h _ _ (parse_render o) hmember hvalue).2
    rw [getID_render hfits] at hfound
    rw [offeredFirst_iff]
    change ∃ v ∈ firstThird id (idTokens o), v.bytes = f.value.text
    cases hfirst : firstThird id (idTokens o) with
    | none =>
        rw [idTokenLoop_none hfirst] at hfound
        exact absurd hfound.symm hvalue
    | some v =>
        rw [idTokenLoop_some hfirst] at hfound
        exact ⟨v, rfl, hfound⟩
  · intro h members value hmembers hmember hvalue
    rw [parse_render] at hmembers
    obtain rfl := Value.obj.inj (Option.some.inj hmembers)
    obtain ⟨f, hf, heq⟩ := List.mem_map.mp hmember
    obtain ⟨hname, hval⟩ := Prod.mk.inj heq
    obtain rfl : f.value.text = value := Value.str.inj hval
    obtain ⟨v, hfirst, hv⟩ := offeredFirst_iff.mp (h f hf hname hvalue)
    refine ⟨fun s => ⟨v, getIDTurn_render hfits hfirst, hv⟩, ?_⟩
    rw [getID_render hfits, idTokenLoop_some hfirst]
    exact hv

end Object

/-- An answer with spaces around the colon. -/
def spacedId : FlatObject Literal :=
  .tight
    [{ beforeName := noBlank
       name := ⟨CStr.ascii "deviceId", CStr.ascii "deviceId", rfl, by decide⟩
       beforeColon := ⟨[0x20], List.forall_mem_singleton.mpr rfl⟩
       afterColon := ⟨[0x20], List.forall_mem_singleton.mpr rfl⟩
       value := ⟨CStr.ascii "T0012", CStr.ascii "T0012", rfl, by decide⟩
       behindValue := noBlank }]

theorem getID_spaced : spacedId.render.length ≤ 1023 ∧
    IdServed (.lit "deviceId") spacedId.render := by
  refine ⟨by decide +kernel, (getID_iff (.lit "deviceId") spacedId
    (by decide +kernel)).mpr fun f hf hname hvalue => ?_⟩
  obtain rfl := List.mem_singleton.mp hf
  exact offeredFirst_iff.mpr ⟨.lit "T0012", by decide +kernel, by decide⟩

/-- A name that has the id in it, in front of the one that is the id. -/
def typedId : FlatObject Literal :=
  .tight
    [.tight ⟨CStr.ascii "deviceIdType", CStr.ascii "deviceIdType", rfl,
        by decide⟩ ⟨CStr.ascii "mac", CStr.ascii "mac", rfl, by decide⟩,
      .tight ⟨CStr.ascii "deviceId", CStr.ascii "deviceId", rfl, by decide⟩
        ⟨CStr.ascii "T0012", CStr.ascii "T0012", rfl, by decide⟩]

theorem getID_typed :
    typedId.render =
        CStr.ascii "\x7b\"deviceIdType\":\"mac\",\"deviceId\":\"T0012\"\x7d" ∧
      ¬ IdServed (.lit "deviceId") typedId.render := by
  refine ⟨by decide +kernel, fun h => ?_⟩
  have hserved := (h _ (CStr.ascii "T0012") (parse_render _)
    (List.mem_cons_of_mem _ List.mem_cons_self) (by decide)).2
  exact absurd hserved (by decide +kernel)

/-! ## Objects without punctuation in their strings -/

section Plain

variable {id token third a b : CStr} {rest post : List CStr}

/-- Names and values, in the order of the text. -/
def idStrings (fields : List (FlatField Literal)) : List CStr :=
  fields.flatMap fun f => [.ofBytes f.name.raw, .ofBytes f.value.raw]

/-- The first string that is not blank and next to one with the name in it. -/
def firstNext (id : CStr) (strings : List CStr) : Option CStr :=
  firstOffer id (strings.zip strings.tail)

theorem firstNext_cons : firstNext id (token :: third :: rest) =
    if token.strip.contains id = true ∧ third.strip ≠ .empty then
      some third.strip
    else firstNext id (third :: rest) :=
  firstOffer_cons

/-- A part without the name is passed over. -/
theorem firstThird_skip (h : token.strip.contains id = false) :
    firstThird id (token :: rest) = firstThird id rest := by
  rcases rest with _ | ⟨a, _ | ⟨b, _ | ⟨third, post⟩⟩⟩
  · rfl
  · rfl
  · rfl
  · rw [firstThird_cons, if_neg (by simp [h])]

/-- White space has no name in it. -/
theorem contains_blank (hid : id ≠ .empty) (blank : Blank) :
    (CStr.ofBytes blank.1).strip.contains id = false := by
  have hnil : CStr.stripBytes (CStr.ofBytes blank.1).bytes = [] := by
    rw [CStr.bytes_ofBytes blank.nul_free, CStr.stripBytes,
      List.dropWhile_eq_nil_iff.mpr fun b hb =>
        isSpace_of_isWs b (blank.2 b hb)]
    rfl
  rw [Bool.eq_false_iff, ne_eq, CStr.contains_iff]
  intro h
  change id.bytes <:+: CStr.stripBytes _ at h
  rw [hnil] at h
  exact hid (CStr.ext (List.infix_nil.mp h))

/-- The parts of a field of strings. -/
theorem parts_field (f : FlatField Literal) : f.parts isIdDelim =
    f.beforeName.1 :: (f.name.raw.splitOnP isIdDelim ++
      f.beforeColon.1 :: f.afterColon.1 :: (f.value.raw.splitOnP isIdDelim ++
        [f.behindValue.1])) := by
  have hquote : isIdDelim 0x22 = true := by decide
  have hliteral : ∀ (front : Blank) (s : Literal) (behind : Blank),
      (front.1 ++ s.quoted ++ behind.1).splitOnP isIdDelim =
        front.1 :: (s.raw.splitOnP isIdDelim ++ [behind.1]) := by
    intro front s behind
    have happend : front.1 ++ s.quoted ++ behind.1 =
        front.1 ++ 0x22 :: (s.raw ++ 0x22 :: behind.1) := by
      simp [Literal.quoted]
    rw [happend, List.splitOnP_append_cons _ _ hquote,
      List.splitOnP_append_cons _ _ hquote,
      isIdDelim_cutsObjects.splitOnP_blank,
      isIdDelim_cutsObjects.splitOnP_blank]
    rfl
  have hname := hliteral f.beforeName f.name f.beforeColon
  have hvalue := hliteral f.afterColon f.value f.behindValue
  show f.nameText.splitOnP isIdDelim ++ f.valueText.splitOnP isIdDelim = _
  rw [FlatField.nameText, hname]
  exact (congrArg (_ ++ ·) hvalue).trans (by simp)

/-- No string of the field has punctuation in it. -/
def PlainField (f : FlatField Literal) : Prop :=
  (∀ b ∈ f.name.raw, isIdDelim b = false) ∧
    ∀ b ∈ f.value.raw, isIdDelim b = false

/-- Strings are next to one another where their parts are three apart. -/
theorem firstThird_fields (hid : id ≠ .empty) (f : FlatField Literal)
    (fs : List (FlatField Literal)) (hplain : ∀ g ∈ f :: fs, PlainField g)
    (behind : Blank) :
    firstThird id (((f :: fs).flatMap (FlatField.parts isIdDelim) ++
        [behind.1]).map CStr.ofBytes) =
      firstNext id (idStrings (f :: fs)) := by
  have hparts : ∀ g : FlatField Literal, PlainField g → g.parts isIdDelim =
      [g.beforeName.1, g.name.raw, g.beforeColon.1, g.afterColon.1,
        g.value.raw, g.behindValue.1] := by
    intro g hg
    rw [parts_field, List.splitOnP_eq_singleton hg.1,
      List.splitOnP_eq_singleton hg.2]
    rfl
  induction fs generalizing f with
  | nil =>
      have hf := hparts f (hplain f List.mem_cons_self)
      rw [List.flatMap_singleton, hf]
      show firstThird id (_ :: _ :: _ :: _ :: _ :: _ :: [_]) =
        firstNext id (_ :: _ :: [])
      rw [firstThird_skip (contains_blank hid _), firstThird_cons,
        firstNext_cons, firstThird_skip (contains_blank hid _),
        firstThird_skip (contains_blank hid _), firstThird_short (by simp)]
      rfl
  | cons g fs ih =>
      have hf := hparts f (hplain f List.mem_cons_self)
      have hg := hparts g (hplain g (by simp))
      have hrest := ih g fun h hh => hplain h (List.mem_cons_of_mem f hh)
      rw [List.flatMap_cons, hf]
      have hnext : (g :: fs).flatMap (FlatField.parts isIdDelim) =
          g.beforeName.1 :: g.name.raw :: ([g.beforeColon.1, g.afterColon.1,
            g.value.raw, g.behindValue.1] ++
              fs.flatMap (FlatField.parts isIdDelim)) := by
        rw [List.flatMap_cons, hg]
        rfl
      rw [hnext] at hrest ⊢
      show firstThird id (_ :: _ :: _ :: _ :: _ :: _ :: _ :: _ :: _) =
        firstNext id (_ :: _ :: CStr.ofBytes g.name.raw :: _)
      rw [firstThird_skip (contains_blank hid _), firstThird_cons,
        firstNext_cons, firstThird_skip (contains_blank hid _),
        firstThird_skip (contains_blank hid _), firstThird_cons,
        firstNext_cons, firstThird_skip (contains_blank hid _)]
      exact if_congr Iff.rfl rfl (if_congr Iff.rfl rfl hrest)

/-- **Plain objects.** Where no string has punctuation in it, the id is the
first string that is not blank and next to one with the name in it. -/
theorem firstThird_plain (hid : id ≠ .empty) (o : FlatObject Literal)
    (hplain : ∀ f ∈ o.fields, PlainField f) :
    firstThird id (idTokens o) = firstNext id (idStrings o.fields) := by
  unfold idTokens FlatObject.parts
  generalize o.fields = fs at hplain
  rw [List.map_cons, firstThird_skip (contains_blank hid _)]
  cases fs with
  | nil => rfl
  | cons f fs => exact firstThird_fields hid f fs hplain o.behind

end Plain

end Xupnp.XcalDevice
