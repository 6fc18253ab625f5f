import Xupnp.Discovery.Publish
import Xupnp.Library.CEscape
import Xupnp.Library.KeyLines
import Xupnp.XcalDevice.AccountId

/-!
# The device name (`parsedevicename`)

The name is read from a file, escaped, and published between quotes by
`sendDiscoveryResult`. A file without the key counts as read, since the result
is that of `g_file_get_contents` until a key is found; the key is any part that
has `deviceName` in it; and what is kept is the name with escapes in it:
`parsedevicename_serves_iff`, and `parsedevicename_plain_iff` of a file with one
such line. The escapes are those of C, made only where there is a quotation
mark or a backslash: `published_name_iff`.
-/

namespace Xupnp.XcalDevice

open Xupnp.Library

/-! ## The code -/

/-- The delimiters, `"'=''\\n''\\0'"`. -/
def isNameDelim (b : UInt8) : Bool := b ∈ CStr.ascii "'=\n"

def deviceNameKey : CStr := .lit "deviceName"

/-- The loop: `devicenamematch` and the name. `none` is the read of
`tokens[toklength]`, a `NULL`. -/
def deviceNameLoop (devicename : CStr) : List CStr → Option (Bool × CStr)
  | [] => some (false, devicename)
  | token :: rest =>
      if token.strip.contains deviceNameKey then
        rest.head?.map fun next => (true, next.strip)
      else deviceNameLoop devicename rest

/-- Behind the loop: `g_strescape (devicename->str, "\\b\\n")` if there is a
quotation mark or a backslash. -/
def escapedName (devicename : CStr) : CStr :=
  if devicename.contains (.lit "\"") || devicename.contains (.lit "\\") then
    CEscape.gStrescape [0x08, 0x0A] devicename
  else devicename

/-- `parsedevicename`: the result and `devicename`. The file is `none` if it
is not configured or cannot be read. -/
def parsedevicename (devicenamefile : Option (List UInt8))
    (devicename : CStr) : Option (Bool × CStr) :=
  match devicenamefile with
  | none => some (false, devicename)
  | some text =>
      (deviceNameLoop devicename ((CStr.upToNul text).tokens isNameDelim)).map
        fun (devicenamematch, devicename) =>
          (true, if devicenamematch then escapedName devicename
            else devicename)

/-- `getDeviceName`: `devicename`, and what is served of it. -/
def getDeviceName (devicenamefile : Option (List UInt8)) (devicename : CStr) :
    Option (CStr × Option CStr) :=
  (parsedevicename devicenamefile devicename).map
    fun (result, devicename) =>
      (devicename,
        if result then strcpyOk .safec maxOutvalue devicename else none)

/-! ## The name that is served -/

/-- The file says what the name is, or it stays. -/
def NameServed (devicenamefile : Option (List UInt8)) (devicename : CStr) :
    Prop :=
  match devicenamefile.bind (KeyLines.firstValue · deviceNameKey) with
  | some value => ∃ name, name.bytes = value ∧
      parsedevicename devicenamefile devicename = some (true, name)
  | none => parsedevicename devicenamefile devicename =
      some (false, devicename)

/-- The first part with `deviceName` in it is followed by one that is the
value, once it is escaped. -/
def LeadsTo (text value : List UInt8) : Prop :=
  ∃ pre part next post,
    (CStr.upToNul text).tokens isNameDelim = pre ++ part :: next :: post ∧
      (∀ x ∈ pre, x.contains deviceNameKey = false) ∧
      part.contains deviceNameKey = true ∧
      (escapedName next.strip).bytes = value

/-- There is no `deviceName` in front of the first NUL. -/
def NoDeviceName (text : List UInt8) : Prop :=
  ¬ deviceNameKey.bytes <:+: text.takeWhile (· ≠ 0)

section Served

variable {text value : List UInt8} {devicename : CStr} {tokens : List CStr}

theorem contains_deviceNameKey (token : CStr) :
    token.strip.contains deviceNameKey = token.contains deviceNameKey :=
  CStr.contains_strip (by decide)

/-- The parts in front of the first key are passed over. -/
theorem deviceNameLoop_append {pre : List CStr}
    (hpre : ∀ x ∈ pre, x.contains deviceNameKey = false) :
    deviceNameLoop devicename (pre ++ tokens) =
      deviceNameLoop devicename tokens := by
  induction pre with
  | nil => rfl
  | cons x pre ih =>
      obtain ⟨hx, hpre⟩ := List.forall_mem_cons.mp hpre
      rw [List.cons_append, deviceNameLoop, contains_deviceNameKey, hx]
      exact ih hpre

theorem deviceNameLoop_none
    (h : ∀ x ∈ tokens, x.contains deviceNameKey = false) :
    deviceNameLoop devicename tokens = some (false, devicename) := by
  have happend : deviceNameLoop devicename (tokens ++ []) =
      deviceNameLoop devicename [] := deviceNameLoop_append h
  rwa [List.append_nil] at happend

theorem deviceNameLoop_first {pre post : List CStr} {part : CStr}
    (hpre : ∀ x ∈ pre, x.contains deviceNameKey = false)
    (hpart : part.contains deviceNameKey = true) :
    deviceNameLoop devicename (pre ++ part :: post) =
      post.head?.map fun next => (true, next.strip) := by
  rw [deviceNameLoop_append hpre, deviceNameLoop, contains_deviceNameKey,
    hpart]
  rfl

/-- A file without the key counts as read, and the name is what it was. -/
theorem parsedevicename_of_no_key (h : NoDeviceName text) :
    parsedevicename (some text) devicename = some (true, devicename) := by
  have hnone : ∀ x ∈ (CStr.upToNul text).tokens isNameDelim,
      x.contains deviceNameKey = false :=
    CStr.tokens_none (strstr_eq_none_iff.mpr h)
  rw [parsedevicename, deviceNameLoop_none hnone]
  rfl

theorem not_leadsTo (h : NoDeviceName text) : ¬ LeadsTo text value := by
  rintro ⟨pre, part, next, post, htokens, -, hpart, -⟩
  have hnone : part.contains deviceNameKey = false :=
    CStr.tokens_none (s := CStr.upToNul text) (strstr_eq_none_iff.mpr h) part
      (by rw [htokens]; simp)
  rw [hnone] at hpart
  cases hpart

/-- In a file with the key, what the first part with it leads to is kept. -/
theorem parsedevicename_of_key (devicename : CStr) (h : ¬ NoDeviceName text) :
    (∃ name, name.bytes = value ∧
        parsedevicename (some text) devicename = some (true, name)) ↔
      LeadsTo text value := by
  have hkey := fun hnone => h (strstr_eq_none_iff.mp hnone)
  obtain ⟨u, hu⟩ := Option.ne_none_iff_exists'.mp hkey
  obtain ⟨pre, part, post, htokens, hpart, hpre, -⟩ :=
    CStr.tokens_first (s := CStr.upToNul text) (p := isNameDelim)
      (by decide) (by decide) hu
  have hread : ∀ {pre part post},
      (CStr.upToNul text).tokens isNameDelim = pre ++ part :: post →
      (∀ x ∈ pre, x.contains deviceNameKey = false) →
      part.contains deviceNameKey = true →
      parsedevicename (some text) devicename =
        post.head?.map fun next => (true, escapedName next.strip) := by
    intro pre part post htokens hpre hpart
    rw [parsedevicename, htokens, deviceNameLoop_first hpre hpart,
      Option.map_map]
    rfl
  constructor
  · rintro ⟨name, rfl, hname⟩
    rw [hread htokens hpre hpart] at hname
    obtain ⟨next, hnext, heq⟩ := Option.map_eq_some_iff.mp hname
    obtain ⟨post', rfl⟩ := List.head?_eq_some_iff.mp hnext
    refine ⟨pre, part, next, post', htokens, hpre, hpart, ?_⟩
    exact congrArg CStr.bytes (Prod.mk.inj heq).2
  · rintro ⟨pre, part, next, post, htokens, hpre, hpart, rfl⟩
    exact ⟨_, rfl, hread htokens hpre hpart⟩

theorem leadsTo_unique {v : List UInt8} (h : LeadsTo text value)
    (h' : LeadsTo text v) : value = v := by
  have hkey : ¬ NoDeviceName text := fun hno => not_leadsTo hno h
  obtain ⟨name, rfl, hname⟩ :=
    (parsedevicename_of_key .empty hkey).mpr h
  obtain ⟨name', rfl, hname'⟩ :=
    (parsedevicename_of_key .empty hkey).mpr h'
  rw [hname] at hname'
  exact congrArg CStr.bytes (Prod.mk.inj (Option.some.inj hname')).2

/-- A file without the key is served the name there was before. -/
theorem getDeviceName_of_no_key (h : NoDeviceName text) :
    getDeviceName (some text) devicename =
      some (devicename, strcpyOk .safec maxOutvalue devicename) := by
  rw [getDeviceName, parsedevicename_of_no_key h]
  rfl

end Served

theorem mem_of_contains {s : CStr} {b : UInt8} {mark : CStr}
    (hmark : mark.bytes = [b]) : s.contains mark = true ↔ b ∈ s.bytes := by
  rw [CStr.contains_iff, hmark, List.singleton_infix_iff]

theorem escapedName_cases (name : CStr) :
    ((0x22 ∈ name.bytes ∨ 0x5C ∈ name.bytes) ∧
        escapedName name = CEscape.gStrescape [0x08, 0x0A] name) ∨
      ((0x22 ∉ name.bytes ∧ 0x5C ∉ name.bytes) ∧ escapedName name = name) := by
  have hmarks : (name.contains (.lit "\"") || name.contains (.lit "\\")) =
      true ↔ 0x22 ∈ name.bytes ∨ 0x5C ∈ name.bytes := by
    rw [Bool.or_eq_true, mem_of_contains (b := 0x22) (by decide),
      mem_of_contains (b := 0x5C) (by decide)]
  unfold escapedName
  split
  · next h => exact .inl ⟨hmarks.mp h, rfl⟩
  · next h => exact .inr ⟨not_or.mp fun h' => h (hmarks.mpr h'), rfl⟩

/-- What is escaped has a backslash in it. -/
theorem slash_mem_gStrescape {name : CStr}
    (h : 0x22 ∈ name.bytes ∨ 0x5C ∈ name.bytes) :
    0x5C ∈ (CEscape.gStrescape [0x08, 0x0A] name).bytes := by
  apply List.mem_flatMap.mpr
  rcases h with h | h
  · exact ⟨0x22, h, by decide⟩
  · exact ⟨0x5C, h, by decide⟩

/-- **The names can be told apart.** -/
theorem escapedName_injective : Function.Injective escapedName := by
  intro s t h
  rcases escapedName_cases s with ⟨hs, hs'⟩ | ⟨hs, hs'⟩ <;>
    rcases escapedName_cases t with ⟨ht, ht'⟩ | ⟨ht, ht'⟩ <;>
    rw [hs', ht'] at h
  · exact CEscape.gStrescape_injective (by decide) h
  · have hslash := slash_mem_gStrescape hs
    rw [h] at hslash
    exact absurd hslash ht.2
  · have hslash := slash_mem_gStrescape ht
    rw [← h] at hslash
    exact absurd hslash hs.2
  · exact h

/-- Nothing is escaped exactly if there are no marks. -/
theorem escapedName_eq_self_iff {name : CStr} :
    escapedName name = name ↔ 0x22 ∉ name.bytes ∧ 0x5C ∉ name.bytes := by
  rcases escapedName_cases name with ⟨hmarks, heq⟩ | ⟨hmarks, heq⟩
  · refine iff_of_false ?_ ?_
    · rw [heq]
      intro hself
      have hlt : name.bytes.length <
          (CEscape.gStrescape [0x08, 0x0A] name).bytes.length := by
        rcases hmarks with h | h
        · exact CEscape.length_lt_gStrescape h (by decide)
        · exact CEscape.length_lt_gStrescape h (by decide)
      rw [hself] at hlt
      exact lt_irrefl _ hlt
    · rintro ⟨hquote, hslash⟩
      rcases hmarks with h | h
      · exact hquote h
      · exact hslash h
  · exact iff_of_true heq hmarks

/-- No `'` or `=` comes in by the escapes. -/
theorem delim_of_mem_escapedName {name : CStr} {b : UInt8}
    (hb : isNameDelim b = true) (h : b ∈ (escapedName name).bytes) :
    b ∈ name.bytes := by
  have hbyte : ∀ b c : UInt8, isNameDelim b = true →
      b ∈ CEscape.escapeByte [0x08, 0x0A] c → b = c := by
    have hdelims : ∀ c : UInt8,
        (0x27 ∈ CEscape.escapeByte [0x08, 0x0A] c → 0x27 = c) ∧
          (0x3D ∈ CEscape.escapeByte [0x08, 0x0A] c → 0x3D = c) ∧
          (0x0A ∈ CEscape.escapeByte [0x08, 0x0A] c → 0x0A = c) :=
      forall_byte (by decide +kernel)
    intro b c hb hmem
    have hmem' : b ∈ [0x27, 0x3D, 0x0A] := of_decide_eq_true hb
    simp only [List.mem_cons, List.not_mem_nil, or_false] at hmem'
    rcases hmem' with rfl | rfl | rfl
    · exact (hdelims c).1 hmem
    · exact (hdelims c).2.1 hmem
    · exact (hdelims c).2.2 hmem
  rcases escapedName_cases name with ⟨-, heq⟩ | ⟨-, heq⟩
  · rw [heq] at h
    obtain ⟨c, hc, hmem⟩ := List.mem_flatMap.mp h
    exact hbyte b c hb hmem ▸ hc
  · rwa [heq] at h

/-! ## Plain files -/

/-- A file with one line that has the key in it, `deviceName=value`. -/
structure NameFile where
  front : List (List UInt8)
  value : List UInt8
  behind : List UInt8
  front_other : ∀ l ∈ front, 0 ∉ l ∧ ¬ deviceNameKey.bytes <:+: l
  value_line : ∀ b ∈ value, b ≠ 0 ∧ b ≠ 0x0A
  stripped : CStr.stripBytes value = value
  not_blank : value ≠ []

namespace NameFile

variable (f : NameFile)

def text : List UInt8 :=
  Stdio.unlines 0x0A f.front ++ (deviceNameKey.bytes ++ 0x3D ::
    (f.value ++ 0x0A :: f.behind))

/-- The parts of the lines in front have no key in them. -/
theorem front_parts {p : UInt8 → Bool} {part : List UInt8}
    (h : part ∈ f.front.flatMap (·.splitOnP p)) :
    0 ∉ part ∧ ¬ deviceNameKey.bytes <:+: part := by
  obtain ⟨l, hl, hpart⟩ := List.mem_flatMap.mp h
  have hin := (CStr.infix_of_mem_splitOnP p l).1 part hpart
  obtain ⟨hnul, hother⟩ := f.front_other l hl
  exact ⟨fun h0 => hnul (hin.subset h0), fun hkey => hother (hkey.trans hin)⟩

theorem firstValue_text :
    KeyLines.firstValue f.text deviceNameKey = some f.value := by
  have hline : ∀ b ∈ deviceNameKey.bytes ++ 0x3D :: f.value,
      (b == 0x0A) = false := by
    intro b hb
    rw [beq_eq_false_iff_ne]
    rcases List.mem_append.mp hb with hb | hb
    · exact ne_of_mem_of_not_mem hb (by decide)
    · rcases List.mem_cons.mp hb with rfl | hb
      · decide
      · exact (f.value_line b hb).2
  have hfront : (f.front.flatMap (·.splitOnP (· == 0x0A))).findSome?
      (KeyLines.keyValue deviceNameKey) = none :=
    List.findSome?_eq_none_iff.mpr fun l hl =>
      KeyLines.keyValue_eq_none (f.front_parts hl).2
  have hvalue : KeyLines.keyValue deviceNameKey
      (deviceNameKey.bytes ++ 0x3D :: f.value) = some f.value :=
    (KeyLines.keyValue_join (by decide)).mpr
      ⟨by decide, f.stripped, f.not_blank⟩
  have hsplit : (deviceNameKey.bytes ++ 0x3D :: (f.value ++ 0x0A ::
      f.behind)).splitOnP (· == 0x0A) = (deviceNameKey.bytes ++ 0x3D ::
        f.value) :: f.behind.splitOnP (· == 0x0A) := by
    rw [← List.cons_append, ← List.append_assoc,
      List.splitOnP_append_cons _ _ rfl, List.splitOnP_eq_singleton hline]
    rfl
  rw [KeyLines.firstValue, KeyLines.lines, text,
    KeyLines.splitOnP_unlines_append rfl, hsplit, List.findSome?_append,
    hfront, List.findSome?_cons, hvalue]
  rfl

/-- The text ends behind the value at the earliest. -/
theorem takeWhile_text : ∃ rest, f.text.takeWhile (· ≠ 0) =
    Stdio.unlines 0x0A f.front ++ (deviceNameKey.bytes ++ 0x3D ::
      (f.value ++ 0x0A :: rest)) := by
  have hfree : ∀ b ∈ Stdio.unlines 0x0A f.front ++ (deviceNameKey.bytes ++
      0x3D :: (f.value ++ [0x0A])), decide (b ≠ 0) = true := by
    intro b hb
    rw [decide_eq_true_eq]
    rintro rfl
    rcases List.mem_append.mp hb with hb | hb
    · obtain ⟨l, hl, hmem⟩ := List.mem_flatMap.mp hb
      rcases List.mem_append.mp hmem with hmem | hmem
      · exact (f.front_other l hl).1 hmem
      · exact absurd hmem (by decide)
    · rcases List.mem_append.mp hb with hb | hb
      · exact deviceNameKey.nul_free hb
      · rcases List.mem_cons.mp hb with hb | hb
        · cases hb
        · rcases List.mem_append.mp hb with hb | hb
          · exact (f.value_line 0 hb).1 rfl
          · exact absurd hb (by decide)
  refine ⟨f.behind.takeWhile (· ≠ 0), ?_⟩
  have htext : f.text = Stdio.unlines 0x0A f.front ++ (deviceNameKey.bytes ++
      0x3D :: (f.value ++ [0x0A])) ++ f.behind := by simp [text]
  rw [htext, List.takeWhile_append_of_pos hfree]
  simp

/-- What is read is the value up to the first `'` or `=`. -/
theorem leadsTo_text : LeadsTo f.text
    (escapedName (CStr.ofBytes (f.value.takeWhile
      (! isNameDelim ·))).strip).bytes := by
  obtain ⟨rest, hbytes⟩ := f.takeWhile_text
  have hkey : ∀ b ∈ deviceNameKey.bytes, isNameDelim b = false := by
    have hcount : deviceNameKey.bytes.countP isNameDelim = 0 := by decide
    intro b hb
    exact Bool.eq_false_iff.mpr (List.countP_eq_zero.mp hcount b hb)
  obtain ⟨post, hpost⟩ := splitOnP_takeWhile isNameDelim
    (f.value ++ 0x0A :: rest)
  have hfirst : (f.value ++ 0x0A :: rest).takeWhile (! isNameDelim ·) =
      f.value.takeWhile (! isNameDelim ·) := by
    have hend : (0x0A :: rest).takeWhile (! isNameDelim ·) = [] :=
      List.takeWhile_cons_of_neg (by decide)
    rw [List.takeWhile_append, hend, List.append_nil]
    split
    · next hlen =>
        exact ((List.takeWhile_prefix _).eq_of_length hlen).symm
    · rfl
  rw [hfirst] at hpost
  have hne : (CStr.upToNul f.text).bytes ≠ [] := by
    rw [CStr.bytes_upToNul, hbytes]
    simp
  refine ⟨(f.front.flatMap (·.splitOnP isNameDelim)).map CStr.ofBytes,
    .ofBytes deviceNameKey.bytes, _, post.map CStr.ofBytes, ?_, ?_, ?_, rfl⟩
  · rw [CStr.tokens_of_ne_nil hne, CStr.splitSet, CStr.bytes_upToNul, hbytes,
      KeyLines.splitOnP_unlines_append (by decide),
      List.splitOnP_append_cons _ _ (by decide),
      List.splitOnP_eq_singleton hkey, hpost]
    simp
  · intro x hx
    obtain ⟨part, hpart, rfl⟩ := List.mem_map.mp hx
    obtain ⟨hnul, hother⟩ := f.front_parts hpart
    rw [Bool.eq_false_iff, ne_eq, CStr.contains_iff, CStr.bytes_ofBytes hnul]
    exact hother
  · rw [CStr.contains_iff, CStr.bytes_ofBytes deviceNameKey.nul_free]

theorem escaped_eq_iff : (escapedName (CStr.ofBytes
      (f.value.takeWhile (! isNameDelim ·))).strip).bytes = f.value ↔
    ∀ b ∈ f.value, b ∉ CStr.ascii "'=\"\\" := by
  have hmarks : ∀ b ∈ f.value, b ∉ CStr.ascii "'=\"\\" ↔
      isNameDelim b = false ∧ b ≠ 0x22 ∧ b ≠ 0x5C := by
    intro b hb
    have hnl := (f.value_line b hb).2
    show b ∉ [0x27, 0x3D, 0x22, 0x5C] ↔
      decide (b ∈ [0x27, 0x3D, 0x0A]) = false ∧ b ≠ 0x22 ∧ b ≠ 0x5C
    simp only [List.mem_cons, List.not_mem_nil, or_false, not_or, hnl,
      decide_eq_false_iff_not, ne_eq, and_assoc]
  have hvalue : (CStr.ofBytes f.value).strip = CStr.ofBytes f.value ∧
      (CStr.ofBytes f.value).bytes = f.value := by
    have hbytes : (CStr.ofBytes f.value).bytes = f.value :=
      CStr.bytes_ofBytes fun h => (f.value_line 0 h).1 rfl
    refine ⟨CStr.ext ?_, hbytes⟩
    show CStr.stripBytes (CStr.ofBytes f.value).bytes = _
    rw [hbytes, f.stripped]
  by_cases hdelim : ∀ b ∈ f.value, isNameDelim b = false
  · have hall : f.value.takeWhile (! isNameDelim ·) = f.value :=
      List.takeWhile_eq_self_iff.mpr fun b hb => by simp [hdelim b hb]
    have hself : (escapedName (CStr.ofBytes f.value)).bytes = f.value ↔
        escapedName (CStr.ofBytes f.value) = CStr.ofBytes f.value := by
      constructor
      · intro h
        exact CStr.ext (h.trans hvalue.2.symm)
      · intro h
        rw [h, hvalue.2]
    rw [hall, hvalue.1, hself, escapedName_eq_self_iff, hvalue.2,
      forall₂_congr hmarks]
    constructor
    · rintro ⟨hquote, hslash⟩ b hb
      exact ⟨hdelim b hb, ne_of_mem_of_not_mem hb hquote,
        ne_of_mem_of_not_mem hb hslash⟩
    · intro h
      exact ⟨fun hb => (h _ hb).2.1 rfl, fun hb => (h _ hb).2.2 rfl⟩
  · rw [not_forall₂] at hdelim
    obtain ⟨d, hd, hdelim⟩ := hdelim
    rw [Bool.not_eq_false] at hdelim
    refine iff_of_false ?_ ?_
    · -- The value goes on where what is read ends.
      intro h
      rw [← h] at hd
      have hmem := CStr.mem_of_mem_stripBytes
        (delim_of_mem_escapedName hdelim hd)
      have htake := List.mem_of_mem_filter hmem
      have hno := List.mem_takeWhile_imp htake
      rw [hdelim] at hno
      cases hno
    · intro h
      have hno := ((hmarks d hd).mp (h d hd)).1
      rw [hdelim] at hno
      cases hno

end NameFile

/-- **Plain files.** The name is the value of the line exactly if there is no
apostrophe, `=`, quotation mark or backslash in it. -/
theorem parsedevicename_plain_iff (f : NameFile) (devicename : CStr) :
    NameServed (some f.text) devicename ↔
      ∀ b ∈ f.value, b ∉ CStr.ascii "'=\"\\" := by
  have hkey : ¬ NoDeviceName f.text := fun h => not_leadsTo h f.leadsTo_text
  have hunique : LeadsTo f.text f.value ↔ (escapedName (CStr.ofBytes
      (f.value.takeWhile (! isNameDelim ·))).strip).bytes = f.value := by
    constructor
    · intro h
      exact leadsTo_unique f.leadsTo_text h
    · intro h
      have hleads := f.leadsTo_text
      rwa [h] at hleads
  unfold NameServed
  rw [Option.bind_some, f.firstValue_text]
  refine (parsedevicename_of_key _ hkey).trans (hunique.trans ?_)
  exact f.escaped_eq_iff

/-! ## The name that is published -/

/-- What `sendDiscoveryResult` makes of a value. -/
def quoted (v : CStr) : CStr := .lit "\"" ++ v ++ .lit "\""

theorem printMember_deviceName (v : CStr) :
    Discovery.printMember ("deviceName", v) =
      .lit "\"deviceName\":" ++ quoted v := by
  apply CStr.ext
  have hname : (CStr.lit "\"deviceName\":").bytes = (CStr.lit "\"").bytes ++
      ((CStr.lit "deviceName").bytes ++ (CStr.lit "\":").bytes) := by decide
  have hopen : (CStr.lit "\":\"").bytes =
      (CStr.lit "\":").bytes ++ (CStr.lit "\"").bytes := by decide
  simp [Discovery.printMember, quoted, hname, hopen]

/-- The name comes through: as it stands where nothing is escaped, or in the
escapes C and JSON share. -/
def Publishable (name : CStr) : Prop :=
  if 0x22 ∈ name.bytes ∨ 0x5C ∈ name.bytes then
    ∀ b ∈ name.bytes, CEscape.JsonByte b
  else Utf8.Valid name.bytes ∧ ∀ b ∈ name.bytes, 0x20 ≤ b

theorem bytes_quoted (v : CStr) :
    (quoted v).bytes = 0x22 :: (v.bytes ++ [0x22]) := by
  have hquote : (CStr.lit "\"").bytes = [0x22] := by decide
  simp [quoted, hquote]

/-- **Published.** What stands in the document for a name is a JSON literal of
it exactly if it has no quotation mark and no backslash and is UTF-8 without
control characters, or consists of printable ASCII, tabs, form feeds and
carriage returns. -/
theorem published_name_iff (name : CStr) :
    Json.parse (quoted (escapedName name)).bytes = some (.str name.bytes) ↔
      Publishable name := by
  rw [bytes_quoted, Json.parse_literal_str_iff, Publishable]
  rcases escapedName_cases name with ⟨hmarks, hescaped⟩ | ⟨hmarks, hescaped⟩
  · rw [hescaped, if_pos hmarks, CEscape.body_gStrescape_iff]
    exact and_iff_right (CEscape.valid_gStrescape name)
  · rw [hescaped, if_neg (not_or.mpr hmarks), Json.body_self_iff]
    refine and_congr_right fun _ => forall₂_congr fun b hb => ?_
    refine and_iff_left ⟨?_, ?_⟩
    · exact ne_of_mem_of_not_mem hb hmarks.1
    · exact ne_of_mem_of_not_mem hb hmarks.2

/-- The file of a device. -/
def cafeFile : List UInt8 :=
  CStr.ascii "deviceName=5\" Caf" ++ [0xC3, 0xA9, 0x0A]

def cafeName : CStr := .lit "5\" Caf" ++ .ofBytes [0xC3, 0xA9]

/-- A quotation mark, and a letter beyond ASCII: it is written in octal. -/
theorem published_name_octal :
    parsedevicename (some cafeFile) .empty =
        some (true, escapedName cafeName) ∧
      Utf8.Valid cafeName.bytes ∧
      Json.parse (quoted (escapedName cafeName)).bytes = none := by
  refine ⟨by decide +kernel, by decide +kernel, ?_⟩
  rfl

end Xupnp.XcalDevice
