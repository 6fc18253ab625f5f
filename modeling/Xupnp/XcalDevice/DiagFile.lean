import Xupnp.Library.FlatObject
import Xupnp.XcalDevice.SystemIds

/-!
# Numbers of the diagnostics file (`getidfromdiagfile`)

The file is a flat object of numbers. It is cut at its punctuation, and the
number behind the last part with the parameter in it counts. That part need not
be the field of that name: every name that has the parameter in it is one, and
so is a piece of a name that has punctuation of its own, and a number with the
same digits. `getidfromdiagfile_iff` says when the number is the right one.
-/

namespace Xupnp.XcalDevice

open Xupnp.Library Xupnp.Library.Json

/-- The delimiters, `":,{}"`. -/
def isDiagDelim (b : UInt8) : Bool := b ∈ CStr.ascii ":,\x7b\x7d"

/-! ## The number of a field -/

/-- The number of the first member of the name, 0 if there is none. -/
def memberNumber (members : List (Text × Value)) (name : Text) : ℕ :=
  match members.lookup name with
  | some (.num digits) => CStr.digitsValue digits
  | _ => 0

/-- What is read of an object is the number of the field. -/
def DiagIdRead (ulongMax : UInt64) (diagparam : CStr) (diagfile : Text) :
    Prop :=
  ∀ members, Json.parse diagfile = some (.obj members) →
    (getidfromdiagfile ulongMax diagparam (.ofBytes diagfile)).toNat =
      memberNumber members diagparam.bytes

/-! ## What is read instead -/

/-- As an `unsigned long`. -/
def saturated (ulongMax : UInt64) (n : ℕ) : UInt64 :=
  if n ≤ ulongMax.toNat then .ofNat n else ulongMax

/-- Parts, each with the number behind it, where `last` is behind them. -/
def readingsTo (ulongMax last : UInt64) : List Text → List (Text × UInt64)
  | [] => []
  | [part] => [(part, last)]
  | part :: next :: parts =>
      (part, CStr.strtoul ulongMax (.ofBytes next)) ::
        readingsTo ulongMax last (next :: parts)

/-- The parts of the name, the last of them with the number of the field, and
the number, which has no number behind it. -/
def readings (ulongMax : UInt64) (f : FlatField ℕ) : List (Text × UInt64) :=
  readingsTo ulongMax (saturated ulongMax f.value)
      (f.nameText.splitOnP isDiagDelim) ++
    [(f.valueText, 0)]

/-- The part has the parameter in it. -/
def mentionsParam (diagparam : CStr) (part : Text) : Bool :=
  (CStr.ofBytes part).strip.contains diagparam

/-- What is behind the last part with the parameter in it, 0 if there is
none. -/
def lastReading (diagparam : CStr) (rs : List (Text × UInt64)) : UInt64 :=
  ((rs.filter fun r => mentionsParam diagparam r.1).getLast?.map
    Prod.snd).getD 0

/-- The last part with the parameter in it has this number behind it, or there
is none and the number is 0. -/
def ReadLast (diagparam : CStr) (rs : List (Text × UInt64)) (n : ℕ) : Prop :=
  ((∀ r ∈ rs, mentionsParam diagparam r.1 = false) ∧ n = 0) ∨
    ∃ pre r post, rs = pre ++ r :: post ∧ r.2.toNat = n ∧
      mentionsParam diagparam r.1 = true ∧
      ∀ q ∈ post, mentionsParam diagparam q.1 = false

section Loop

variable {ulongMax : UInt64} {diagparam : CStr} {rs : List (Text × UInt64)}

theorem lastReading_none
    (h : ∀ r ∈ rs, mentionsParam diagparam r.1 = false) :
    lastReading diagparam rs = 0 := by
  have hfilter : rs.filter (fun r => mentionsParam diagparam r.1) = [] :=
    List.filter_eq_nil_iff.mpr fun r hr => by simp [h r hr]
  rw [lastReading, hfilter]
  rfl

theorem lastReading_last {pre post : List (Text × UInt64)} {r : Text × UInt64}
    (hr : mentionsParam diagparam r.1 = true)
    (hpost : ∀ q ∈ post, mentionsParam diagparam q.1 = false) :
    lastReading diagparam (pre ++ r :: post) = r.2 := by
  rw [lastReading, getLast?_filter_eq_some.mpr ⟨pre, post, rfl, hr, hpost⟩]
  rfl

theorem lastReading_iff (n : ℕ) :
    (lastReading diagparam rs).toNat = n ↔ ReadLast diagparam rs n := by
  constructor
  · rintro rfl
    cases hlast : (rs.filter fun r => mentionsParam diagparam r.1).getLast? with
    | none =>
        have hnone : ∀ r ∈ rs, mentionsParam diagparam r.1 = false := by
          simpa [List.getLast?_eq_none_iff] using hlast
        exact .inl ⟨hnone, by rw [lastReading_none hnone]; rfl⟩
    | some r =>
        obtain ⟨pre, post, rfl, hr, hpost⟩ := getLast?_filter_eq_some.mp hlast
        exact .inr ⟨pre, r, post, rfl, by rw [lastReading_last hr hpost], hr,
          hpost⟩
  · rintro (⟨hnone, rfl⟩ | ⟨pre, r, post, rfl, rfl, hr, hpost⟩)
    · rw [lastReading_none hnone]
      rfl
    · rw [lastReading_last hr hpost]

/-- A reading of 0 in front of the others changes nothing. -/
theorem lastReading_cons_zero (part : Text) :
    lastReading diagparam ((part, 0) :: rs) = lastReading diagparam rs := by
  unfold lastReading
  rw [List.filter_cons]
  split
  · rw [List.getLast?_cons]
    cases (rs.filter fun r => mentionsParam diagparam r.1).getLast? <;> rfl
  · rfl

/-- The loop over some parts and one more that is behind them. -/
theorem idFromTokens_eq (diagid : UInt64) (parts : List Text) (behind : Text) :
    idFromTokens ulongMax diagparam diagid
        ((parts ++ [behind]).map CStr.ofBytes) =
      (((readingsTo ulongMax (CStr.strtoul ulongMax (.ofBytes behind))
          parts).filter fun r => mentionsParam diagparam r.1).getLast?.map
        Prod.snd).getD diagid := by
  have hstep : ∀ (part next : Text) (diagid : UInt64)
      (rs : List (Text × UInt64)),
      ((rs.filter fun r => mentionsParam diagparam r.1).getLast?.map
          Prod.snd).getD
        (if mentionsParam diagparam part then
          CStr.strtoul ulongMax (.ofBytes next) else diagid) =
      ((((part, CStr.strtoul ulongMax (.ofBytes next)) :: rs).filter
          fun r => mentionsParam diagparam r.1).getLast?.map Prod.snd).getD
        diagid := by
    intro part next diagid rs
    rw [List.filter_cons]
    split
    · rw [List.getLast?_cons]
      cases (rs.filter fun r => mentionsParam diagparam r.1).getLast? <;> rfl
    · rfl
  induction parts generalizing diagid with
  | nil =>
      show (if mentionsParam diagparam behind = true then diagid
        else diagid) = _
      rw [ite_self]
      rfl
  | cons part parts ih =>
      cases parts with
      | nil =>
          have h := ih (if mentionsParam diagparam part then
            CStr.strtoul ulongMax (.ofBytes behind) else diagid)
          exact h.trans (hstep part behind diagid [])
      | cons next parts =>
          have h := ih (if mentionsParam diagparam part then
            CStr.strtoul ulongMax (.ofBytes next) else diagid)
          exact h.trans (hstep part next diagid _)

theorem readingsTo_append (last : UInt64) (parts : List Text) (next : Text)
    (parts' : List Text) :
    readingsTo ulongMax last (parts ++ next :: parts') =
      readingsTo ulongMax (CStr.strtoul ulongMax (.ofBytes next)) parts ++
        readingsTo ulongMax last (next :: parts') := by
  induction parts with
  | nil => rfl
  | cons part parts ih =>
      cases parts with
      | nil => rfl
      | cons part' parts => exact congrArg (_ :: ·) ih

end Loop

/-! ## Numbers and what is none -/

section Numbers

variable {ulongMax : UInt64}

/-- Only what is behind the white space in front counts. -/
theorem strtoul_congr {s t : CStr}
    (h : s.bytes.dropWhile (fun b => b == 0x20 || (0x09 ≤ b && b ≤ 0x0D)) =
      t.bytes.dropWhile fun b => b == 0x20 || (0x09 ≤ b && b ≤ 0x0D)) :
    CStr.strtoul ulongMax s = CStr.strtoul ulongMax t := by
  unfold CStr.strtoul
  rw [h]

theorem strtoul_blank (blank : Blank) (l : Text) :
    CStr.strtoul ulongMax (.ofBytes (blank.1 ++ l)) =
      CStr.strtoul ulongMax (.ofBytes l) := by
  have hws : ∀ b, isWs b = true →
      (b ≠ 0 ∧ (b == 0x20 || (0x09 ≤ b && b ≤ 0x0D)) = true) :=
    forall_byte (by decide +kernel)
  have hbytes : (CStr.ofBytes (blank.1 ++ l)).bytes =
      blank.1 ++ (CStr.ofBytes l).bytes := by
    show (blank.1 ++ l).filter (· ≠ 0) = _
    rw [List.filter_append, List.filter_eq_self.mpr fun b hb =>
      decide_eq_true (hws b (blank.2 b hb)).1]
    rfl
  apply strtoul_congr
  rw [hbytes, List.dropWhile_append_of_pos fun b hb =>
    (hws b (blank.2 b hb)).2]

theorem strtoul_blank_nil (blank : Blank) :
    CStr.strtoul ulongMax (.ofBytes blank.1) = 0 := by
  have h := @strtoul_blank ulongMax blank []
  rw [List.append_nil] at h
  rw [h]
  simp [CStr.strtoul, CStr.ofBytes, CStr.digitsValue]

/-- What starts with a quotation mark is no number. -/
theorem strtoul_quote (l : Text) :
    CStr.strtoul ulongMax (.ofBytes (0x22 :: l)) = 0 := by
  simp [CStr.strtoul, CStr.ofBytes, CStr.digitsValue]

/-- Digits up to something that is none. -/
theorem strtoul_of_digits {s : CStr} {n : ℕ} {l : Text}
    (hs : s.bytes = CStr.digits n ++ l)
    (hl : ∀ b ∈ l.head?, isDigit b = false) :
    CStr.strtoul ulongMax s = saturated ulongMax n := by
  have hdigit : ∀ b, isDigit b = true →
      (b == 0x20 || (0x09 ≤ b && b ≤ 0x0D)) = false ∧ b ≠ 0x2D ∧ b ≠ 0x2B :=
    forall_byte (by decide +kernel)
  have htake : (CStr.digits n ++ l).takeWhile
      (fun b => 0x30 ≤ b && b ≤ 0x39) = CStr.digits n := by
    change (CStr.digits n ++ l).takeWhile isDigit = _
    rw [List.takeWhile_append_of_pos isDigit_of_mem_digits]
    cases l with
    | nil => simp
    | cons b l => simp [hl b rfl]
  obtain ⟨c, m, hcons⟩ : ∃ c m, CStr.digits n = c :: m := by
    rcases digits_cases n with h | ⟨c, m, h, -⟩ <;> exact ⟨_, _, h⟩
  have hc : isDigit c = true :=
    isDigit_of_mem_digits (n := n) c (by rw [hcons]; exact List.mem_cons_self)
  obtain ⟨hspace, hminus, hplus⟩ := hdigit c hc
  have hvalue : CStr.digitsValue ((c :: (m ++ l)).takeWhile
      fun b => 0x30 ≤ b && b ≤ 0x39) = n := by
    rw [← List.cons_append, ← hcons, htake, CStr.digitsValue_digits]
  unfold CStr.strtoul saturated
  rw [hs, hcons, List.cons_append, List.dropWhile_cons_of_neg
    (by rw [hspace]; simp)]
  dsimp only
  split
  · next h => exact absurd (List.cons.inj h).1 hminus
  · next h => exact absurd (List.cons.inj h).1 hplus
  · exact congrArg (fun k => if k ≤ ulongMax.toNat then UInt64.ofNat k
      else ulongMax) hvalue

theorem strtoul_valueText (f : FlatField ℕ) :
    CStr.strtoul ulongMax (.ofBytes f.valueText) =
      saturated ulongMax f.value := by
  have hws : ∀ b, isWs b = true → isDigit b = false :=
    forall_byte (by decide +kernel)
  have hnul : 0 ∉ CStr.digits f.value ++ f.behindValue.1 := by
    rw [List.mem_append, not_or]
    exact ⟨Scalar.nul_free f.value, f.behindValue.nul_free⟩
  rw [FlatField.valueText, List.append_assoc, strtoul_blank]
  refine strtoul_of_digits (CStr.bytes_ofBytes hnul) fun b hb => ?_
  exact hws b (f.behindValue.2 b (List.mem_of_mem_head? hb))

end Numbers

/-! ## The object -/

section Object

variable {ulongMax : UInt64} {diagparam : CStr}

theorem isDiagDelim_cutsObjects : CutsObjects isDiagDelim where
  brace := by decide
  closing := by decide
  comma := by decide
  colon := by decide
  blank := forall_byte (by decide +kernel)

/-- A number is not cut. -/
theorem splitOnP_valueText (f : FlatField ℕ) :
    f.valueText.splitOnP isDiagDelim = [f.valueText] := by
  have hdigit : ∀ b, isDigit b = true → isDiagDelim b = false :=
    forall_byte (by decide +kernel)
  apply List.splitOnP_eq_singleton
  intro b hb
  rcases List.mem_append.mp hb with hb | hb
  · rcases List.mem_append.mp hb with hb | hb
    · exact isDiagDelim_cutsObjects.blank b (f.afterColon.2 b hb)
    · exact hdigit b (isDigit_of_mem_digits b hb)
  · exact isDiagDelim_cutsObjects.blank b (f.behindValue.2 b hb)

/-- The first part of a field starts with a quotation mark. -/
theorem nameText_parts {α : Type} (f : FlatField α) :
    ∃ part parts, f.nameText.splitOnP isDiagDelim = part :: parts ∧
      CStr.strtoul ulongMax (.ofBytes part) = 0 := by
  have hopen : ∀ b ∈ f.beforeName.1 ++ [0x22], isDiagDelim b = false := by
    intro b hb
    rcases List.mem_append.mp hb with hb | hb
    · exact isDiagDelim_cutsObjects.blank b (f.beforeName.2 b hb)
    · rw [List.mem_singleton.mp hb]
      decide
  have htext : f.nameText = f.beforeName.1 ++ [0x22] ++
      (f.name.raw ++ [0x22] ++ f.beforeColon.1) := by
    simp [FlatField.nameText, Literal.quoted]
  obtain ⟨part, parts, hparts⟩ := List.exists_cons_of_ne_nil
    (List.splitOnP_ne_nil isDiagDelim
      (f.name.raw ++ [0x22] ++ f.beforeColon.1))
  rw [htext, splitOnP_append_free hopen, hparts]
  refine ⟨_, _, rfl, ?_⟩
  show CStr.strtoul ulongMax (.ofBytes (f.beforeName.1 ++ [0x22] ++ part)) = 0
  rw [List.append_assoc, strtoul_blank]
  exact strtoul_quote part

/-- The readings of fields, one field after the other. -/
theorem readingsTo_fields (f : FlatField ℕ) (fs : List (FlatField ℕ)) :
    readingsTo ulongMax 0 ((f :: fs).flatMap (FlatField.parts isDiagDelim)) =
      (f :: fs).flatMap (readings ulongMax) := by
  have hparts : ∀ f : FlatField ℕ, f.parts isDiagDelim =
      f.nameText.splitOnP isDiagDelim ++ [f.valueText] := fun f => by
    rw [FlatField.parts, splitOnP_valueText]
  induction fs generalizing f with
  | nil =>
      rw [List.flatMap_singleton, List.flatMap_singleton, hparts,
        readingsTo_append, strtoul_valueText]
      rfl
  | cons g fs ih =>
      obtain ⟨part, parts, hg, hzero⟩ := @nameText_parts ulongMax ℕ g
      have hrest : (g :: fs).flatMap (FlatField.parts isDiagDelim) =
          part :: (parts ++ g.valueText ::
            fs.flatMap (FlatField.parts isDiagDelim)) := by
        rw [List.flatMap_cons, hparts, hg]
        simp
      rw [List.flatMap_cons, hparts, List.append_assoc,
        List.singleton_append, readingsTo_append, strtoul_valueText, hrest,
        readingsTo, hzero, ← hrest, ih g]
      simp [readings]

/-- **What is read.** -/
theorem getidfromdiagfile_render (o : FlatObject ℕ) :
    getidfromdiagfile ulongMax diagparam (.ofBytes o.render) =
      lastReading diagparam (o.fields.flatMap (readings ulongMax)) := by
  show idFromTokens ulongMax diagparam 0
    ((CStr.ofBytes o.render).tokens isDiagDelim) = _
  rw [tokens_render isDiagDelim_cutsObjects]
  unfold FlatObject.parts
  cases o.fields with
  | nil =>
      show idFromTokens ulongMax diagparam 0
        (([o.before.1, o.inner.1] ++ [o.behind.1]).map CStr.ofBytes) = _
      rw [idFromTokens_eq, strtoul_blank_nil, readingsTo, strtoul_blank_nil]
      exact (lastReading_cons_zero _).trans (lastReading_cons_zero _)
  | cons f fs =>
      obtain ⟨part, parts, hf, hzero⟩ := @nameText_parts ulongMax ℕ f
      have hfirst : (f :: fs).flatMap (FlatField.parts isDiagDelim) =
          part :: (parts ++ f.valueText.splitOnP isDiagDelim ++
            fs.flatMap (FlatField.parts isDiagDelim)) := by
        rw [List.flatMap_cons, FlatField.parts, hf]
        rfl
      dsimp only
      rw [← List.cons_append, idFromTokens_eq, strtoul_blank_nil, hfirst,
        readingsTo, hzero, ← hfirst, readingsTo_fields]
      exact lastReading_cons_zero _

/-- The number of the first field of the name, 0 if there is none. -/
def fieldNumber (fields : List (FlatField ℕ)) (name : Text) : ℕ :=
  ((fields.find? fun f => f.name.text = name).map FlatField.value).getD 0

theorem memberNumber_members (o : FlatObject ℕ) (name : Text) :
    memberNumber o.members name = fieldNumber o.fields name := by
  unfold FlatObject.members
  induction o.fields with
  | nil => rfl
  | cons f fs ih =>
      unfold memberNumber fieldNumber at ih ⊢
      rw [List.map_cons, List.find?_cons]
      by_cases hname : f.name.text = name
      · subst hname
        rw [FlatField.member, List.lookup_cons_self]
        simp only [decide_true, Option.map_some, Option.getD_some]
        exact CStr.digitsValue_digits f.value
      · have hne : (name == f.name.text) = false := by
          simpa using Ne.symm hname
        rw [FlatField.member, List.lookup_cons, hne]
        simpa [hname] using ih

/-- **Read.** The number is the one of the field exactly if the last part with
the parameter in it has that number behind it, or there is none and the number
is 0. -/
theorem getidfromdiagfile_iff (ulongMax : UInt64) (diagparam : CStr)
    (o : FlatObject ℕ) :
    DiagIdRead ulongMax diagparam o.render ↔
      ReadLast diagparam (o.fields.flatMap (readings ulongMax))
        (fieldNumber o.fields diagparam.bytes) := by
  rw [← lastReading_iff, ← getidfromdiagfile_render, ← memberNumber_members]
  constructor
  · exact fun h => h _ (parse_render o)
  · intro h members hmembers
    rw [parse_render] at hmembers
    obtain rfl := Value.obj.inj (Option.some.inj hmembers)
    exact h

end Object

/-- A name that ends in the one of the id, behind it. -/
def mainPlant : FlatObject ℕ :=
  .tight
    [.tight ⟨CStr.ascii "plantId", CStr.ascii "plantId", rfl, by decide⟩ 7,
      .tight ⟨CStr.ascii "main.plantId", CStr.ascii "main.plantId", rfl,
        by decide⟩ 9]

theorem getidfromdiagfile_main :
    mainPlant.render =
        CStr.ascii "\x7b\"plantId\":7,\"main.plantId\":9\x7d" ∧
      ¬ DiagIdRead 0xFFFFFFFF (.lit "plantId") mainPlant.render := by
  refine ⟨by decide +kernel, fun h => ?_⟩
  exact absurd (h _ (parse_render _)) (by decide +kernel)

/-! ## Names without punctuation -/

section Plain

variable {ulongMax : UInt64} {diagparam : CStr}

/-- The number of the last field whose name has the parameter in it, 0 if there
is none. -/
def lastNamed (ulongMax : UInt64) (diagparam : CStr)
    (fields : List (FlatField ℕ)) : UInt64 :=
  ((fields.filter fun f =>
    (CStr.ofBytes f.name.raw).contains diagparam).getLast?.map fun f =>
      saturated ulongMax f.value).getD 0

theorem mentionsParam_blanks (front behind : Blank) {l : Text} (hne : l ≠ [])
    (hl : CStr.stripBytes l = l) (hnul : 0 ∉ l) :
    mentionsParam diagparam (front.1 ++ l ++ behind.1) = true ↔
      diagparam.bytes <:+: l := by
  have hnul' : 0 ∉ front.1 ++ l ++ behind.1 := by
    simp [hnul, Blank.nul_free]
  rw [mentionsParam, CStr.contains_iff]
  show _ <:+: CStr.stripBytes (CStr.ofBytes _).bytes ↔ _
  rw [CStr.bytes_ofBytes hnul', stripBytes_blanks front behind hne hl]

theorem mentionsParam_nameText (hquote : 0x22 ∉ diagparam.bytes)
    (f : FlatField ℕ) : mentionsParam diagparam f.nameText =
      (CStr.ofBytes f.name.raw).contains diagparam := by
  have hstrip : CStr.stripBytes f.name.quoted = f.name.quoted := by
    refine CStr.stripBytes_eq_self ?_ ?_
    · intro b hb
      obtain rfl := Option.some.inj hb
      rfl
    · intro b hb
      rw [Literal.quoted, ← List.cons_append, List.getLast?_concat] at hb
      obtain rfl := Option.some.inj hb
      rfl
  rw [Bool.eq_iff_iff, CStr.contains_iff,
    CStr.bytes_ofBytes f.name.body.nul_free, ← Literal.infix_quoted hquote]
  exact mentionsParam_blanks _ _ (List.cons_ne_nil _ _) hstrip f.name.nul_free

theorem mentionsParam_valueText
    (hparam : ∃ b ∈ diagparam.bytes, isDigit b = false) (f : FlatField ℕ) :
    mentionsParam diagparam f.valueText = false := by
  have hspace : ∀ b, isDigit b = true → CStr.isSpace b = false :=
    forall_byte (by decide +kernel)
  have hdigits : ∀ b ∈ CStr.digits f.value, CStr.isSpace b = false :=
    fun b hb => hspace b (isDigit_of_mem_digits b hb)
  have hne : CStr.digits f.value ≠ [] := by
    rcases digits_cases f.value with h | ⟨c, m, h, -⟩ <;> rw [h] <;>
      exact List.cons_ne_nil _ _
  rw [Bool.eq_false_iff, ne_eq, FlatField.valueText]
  intro h
  obtain ⟨b, hb, hbd⟩ := hparam
  have hin := (mentionsParam_blanks f.afterColon f.behindValue hne
    (CStr.stripBytes_eq_self
      (fun b hb => hdigits b (List.mem_of_mem_head? hb))
      (fun b hb => hdigits b (List.mem_of_mem_getLast? hb)))
    (Scalar.nul_free f.value)).mp h
  rw [isDigit_of_mem_digits b (hin.subset hb)] at hbd
  cases hbd

/-- **Plain names.** Where no name has punctuation in it, the last field whose
name has the parameter in it is the one that counts. -/
theorem lastReading_plain (hquote : 0x22 ∉ diagparam.bytes)
    (hparam : ∃ b ∈ diagparam.bytes, isDigit b = false)
    (fields : List (FlatField ℕ))
    (hplain : ∀ f ∈ fields, ∀ b ∈ f.name.raw, isDiagDelim b = false) :
    lastReading diagparam (fields.flatMap (readings ulongMax)) =
      lastNamed ulongMax diagparam fields := by
  have hreadings : ∀ f ∈ fields, readings ulongMax f =
      [(f.nameText, saturated ulongMax f.value), (f.valueText, 0)] := by
    intro f hf
    have hfree : ∀ b ∈ f.nameText, isDiagDelim b = false := by
      intro b hb
      rcases List.mem_append.mp hb with hb | hb
      · rcases List.mem_append.mp hb with hb | hb
        · exact isDiagDelim_cutsObjects.blank b (f.beforeName.2 b hb)
        · rcases List.mem_cons.mp hb with rfl | hb
          · decide
          · rcases List.mem_append.mp hb with hb | hb
            · exact hplain f hf b hb
            · rw [List.mem_singleton.mp hb]
              decide
      · exact isDiagDelim_cutsObjects.blank b (f.beforeColon.2 b hb)
    rw [readings, List.splitOnP_eq_singleton hfree]
    rfl
  have hlast : ((fields.flatMap (readings ulongMax)).filter fun r =>
      mentionsParam diagparam r.1).map Prod.snd =
      (fields.filter fun f =>
        (CStr.ofBytes f.name.raw).contains diagparam).map fun f =>
          saturated ulongMax f.value := by
    clear hplain
    induction fields with
    | nil => rfl
    | cons f fields ih =>
        obtain ⟨hf, hfields⟩ := List.forall_mem_cons.mp hreadings
        rw [List.flatMap_cons, hf, List.filter_append, List.map_append,
          ih hfields, List.filter_cons, List.filter_cons, List.filter_nil,
          mentionsParam_nameText hquote, mentionsParam_valueText hparam,
          List.filter_cons]
        cases (CStr.ofBytes f.name.raw).contains diagparam <;> rfl
  rw [lastReading, lastNamed, ← List.getLast?_map, hlast, List.getLast?_map]

end Plain

end Xupnp.XcalDevice
