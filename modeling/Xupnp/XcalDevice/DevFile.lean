import Mathlib.Data.List.Find
import Xupnp.Library.Escape
import Xupnp.Library.KeyLines

/-!
# The device properties (`readDevFile`)

The two libraries read the file alike: it is cut into parts, up to its first
NUL, and every part with a key in it, and another part behind it, counts as one
key read. Enough of them and the file counts as read, whichever keys they were.
Where there is no NUL nothing that the file sets is missed
(`readDevFile_complete`), but what counts need not be a key, nor what is behind
it a value: `readDevFile_iff`. In a file of plain settings it is the lines
with a key that count (`readDevFile_plain`).
-/

namespace Xupnp.XcalDevice

open Xupnp.Library

/-! ## The code -/

/-- The delimiters, `",='\n'"`. -/
def isDevDelim (b : UInt8) : Bool := b ∈ CStr.ascii ",='\n"

/-- The variables that are set. -/
inductive DevVar where
  | recvdevtype
  | buildversion
  | devicetype
  | mocaIface
  | wifiIface
  | modelnumber
  | devicename
  | make
deriving DecidableEq

/-- A key that is looked for, and the variable its value goes to. -/
structure DevKey where
  name : CStr
  var : DevVar
deriving DecidableEq

/-- What the libraries differ in: the keys, those of one `if` with its `else`s
in one list, the count that is enough, and the interfaces that are set
afterwards. -/
structure DevLibrary where
  chains : List (List DevKey)
  required : ℕ
  interfaces : List (DevVar × CStr)
  pos : 0 < required
  required_eq : chains.flatten.length = required
  nodup : (chains.flatten.map DevKey.name).Nodup
  undelimited : ∀ key ∈ chains.flatten, key.name.bytes.countP isDevDelim = 0
  stripped : ∀ key ∈ chains.flatten, key.name.strip = key.name
  apart : ∀ chain ∈ chains, ∀ key ∈ chain, ∀ key' ∈ chain,
    key.name.contains key'.name = true → key' = key
  kept : ∀ i ∈ interfaces, ∀ key ∈ chains.flatten, key.var ≠ i.1

/-- `xcal_device_library.c` of `video` -/
def videoLibrary : DevLibrary where
  chains :=
    [[⟨.lit "DEVICE_TYPE", .recvdevtype⟩,
      ⟨.lit "BUILD_VERSION", .buildversion⟩,
      ⟨.lit "BOX_TYPE", .devicetype⟩],
    [⟨.lit "MOCA_INTERFACE", .mocaIface⟩],
    [⟨.lit "WIFI_INTERFACE", .wifiIface⟩],
    [⟨.lit "MODEL_NUM", .modelnumber⟩],
    [⟨.lit "MFG_NAME", .make⟩]]
  required := 7
  interfaces := []
  pos := by decide
  required_eq := rfl
  nodup := by decide +kernel
  undelimited := by decide +kernel
  stripped := by decide +kernel
  apart := by decide +kernel
  kept := by simp

/-- `xcal-device-library.c` of `broadband` -/
def broadbandLibrary : DevLibrary where
  chains :=
    [[⟨.lit "DEVICE_TYPE", .recvdevtype⟩,
      ⟨.lit "BUILD_VERSION", .buildversion⟩,
      ⟨.lit "BOX_TYPE", .devicetype⟩,
      ⟨.lit "MODEL_NUM", .devicename⟩],
    [⟨.lit "MFG_NAME", .make⟩,
      ⟨.lit "MANUFACTURE", .make⟩]]
  required := 6
  interfaces :=
    [(.mocaIface, .lit "brlan10"), (.wifiIface, .lit "brlan0:0")]
  pos := by decide
  required_eq := rfl
  nodup := by decide +kernel
  undelimited := by decide +kernel
  stripped := by decide +kernel
  apart := by decide +kernel
  kept := by decide +kernel

abbrev DevVars := DevVar → CStr

/-- All `g_string_new (NULL)`. -/
def unset : DevVars := fun _ => .empty

/-- `counter` and the variables. The loop ends before a `gchar` overflows. -/
structure DevState where
  counter : ℕ
  vars : DevVars

/-- The key that is found and what is behind it. -/
def record (s : DevState) (m : DevKey × CStr) : DevState where
  counter := s.counter + 1
  vars := Function.update s.vars m.1.var m.2

/-- The `if`s for one token, and whether the loop is left. -/
def readToken (required : ℕ) (token : CStr) (next : Option CStr) :
    List (List DevKey) → DevState → Bool × DevState
  | [], s => (false, s)
  | chain :: chains, s =>
      match chain.find? fun key => token.strip.contains key.name with
      | none => readToken required token next chains s
      | some key =>
          let s := match next with
            | some next => record s (key, next.strip)
            | none => s
          if s.counter = required then (true, s)
          else readToken required token next chains s

/-- The loop. -/
def readTokens (required : ℕ) (chains : List (List DevKey)) :
    List CStr → DevState → Bool × DevState
  | [], s => (false, s)
  | token :: rest, s =>
      match readToken required token rest.head? chains s with
      | (true, s) => (true, s)
      | (false, s) => readTokens required chains rest s

/-- `readDevFile`: the result and the variables. There may be no name of a
file, and the file may be unreadable. -/
def readDevFile (lib : DevLibrary) (deviceFile : Option (Option (List UInt8)))
    (vars : DevVars) : Bool × DevVars :=
  match deviceFile with
  | none => (false, vars)
  | some devfilebuffer =>
      let r : Bool × DevState := match devfilebuffer with
        | none => (false, ⟨0, vars⟩)
        | some text =>
            readTokens lib.required lib.chains
              ((CStr.upToNul text).tokens isDevDelim) ⟨0, vars⟩
      (r.1, lib.interfaces.foldl
        (fun vars i => Function.update vars i.1 i.2) r.2.vars)

/-! ## What the file says -/

def DevLibrary.keys (lib : DevLibrary) : List DevKey := lib.chains.flatten

/-- The file sets all keys. -/
def DevLibrary.AllSet (lib : DevLibrary) (text : List UInt8) : Prop :=
  ∀ key ∈ lib.keys, ∃ value, KeyLines.Sets text key.name value

/-- The file sets the variable to this. -/
def DevLibrary.SetsVar (lib : DevLibrary) (text : List UInt8) (var : DevVar)
    (value : CStr) : Prop :=
  ∃ key ∈ lib.keys, key.var = var ∧ KeyLines.Sets text key.name value.bytes

/-- The file counts as read exactly if it has all keys and the variables hold
values of theirs. -/
def DevFileRead (lib : DevLibrary) (text : List UInt8) : Prop :=
  (readDevFile lib (some (some text)) unset).1 = true ↔
    lib.AllSet text ∧ ∀ key ∈ lib.keys, lib.SetsVar text key.var
      ((readDevFile lib (some (some text)) unset).2 key.var)

/-! ## What counts -/

/-- The parts of the file. -/
def devParts (text : List UInt8) : List CStr :=
  (CStr.upToNul text).tokens isDevDelim

/-- In how many of these chains the part has a key. -/
def keysIn (chains : List (List DevKey)) (part : CStr) : ℕ :=
  chains.countP fun chain => chain.any fun key => part.contains key.name

/-- How often the parts have keys in them. -/
def placesIn (chains : List (List DevKey)) (parts : List CStr) : ℕ :=
  (parts.map (keysIn chains)).sum

/-- How many parts with a key in them have another part behind. -/
def DevLibrary.places (lib : DevLibrary) (text : List UInt8) : ℕ :=
  placesIn lib.chains (devParts text).dropLast

/-- A part with a key in it, and the part behind it. -/
structure DevLibrary.Place (lib : DevLibrary) (text : List UInt8) where
  before : List CStr
  part : CStr
  next : CStr
  behind : List CStr
  chains : List (List DevKey)
  chain : List DevKey
  chains' : List (List DevKey)
  key : DevKey
  parts_eq : devParts text = before ++ part :: next :: behind
  chains_eq : lib.chains = chains ++ chain :: chains'
  found : (chain.find? fun key => part.contains key.name) = some key

/-- How many places are in front of it. -/
def DevLibrary.Place.number {lib : DevLibrary} {text : List UInt8}
    (p : lib.Place text) : ℕ :=
  placesIn lib.chains p.before + keysIn p.chains p.part

/-- Among the places that count, as many as are required, there is one for
each variable, and the last one has a value of it behind. -/
def DevLibrary.LastRight (lib : DevLibrary) (text : List UInt8) : Prop :=
  ∀ key ∈ lib.keys, ∃ p : lib.Place text, p.key.var = key.var ∧
    p.number < lib.required ∧ lib.SetsVar text key.var p.next.strip ∧
    ∀ q : lib.Place text, q.key.var = key.var → q.number < lib.required →
      q.number ≤ p.number

/-! ## The loop over what counts -/

/-- The keys found in a part, with what is behind it. -/
def mentionsAt (chains : List (List DevKey)) (token next : CStr) :
    List (DevKey × CStr) :=
  chains.filterMap fun chain =>
    (chain.find? fun key => token.strip.contains key.name).map (·, next.strip)

/-- All that are found. -/
def mentionsIn (chains : List (List DevKey)) :
    List CStr → List (DevKey × CStr)
  | [] => []
  | token :: rest =>
      (rest.head?.elim [] fun next => mentionsAt chains token next) ++
        mentionsIn chains rest

def DevLibrary.mentions (lib : DevLibrary) (text : List UInt8) :
    List (DevKey × CStr) :=
  mentionsIn lib.chains (devParts text)

/-- What is behind the last key for a variable among those that count. -/
def DevLibrary.lastMention (lib : DevLibrary) (text : List UInt8)
    (var : DevVar) : Option CStr :=
  (((lib.mentions text).take lib.required).filter
    fun m => m.1.var = var).getLast?.map Prod.snd

section Loop

variable {required : ℕ} {chains : List (List DevKey)}
  {ms ms' : List (DevKey × CStr)} {s : DevState}

/-- The keys one after the other, until there are enough. -/
def countKeys (required : ℕ) :
    List (DevKey × CStr) → DevState → Bool × DevState
  | [], s => (false, s)
  | m :: ms, s =>
      if s.counter + 1 = required then (true, record s m)
      else countKeys required ms (record s m)

/-- What is behind the part that was enough is not looked at. -/
theorem countKeys_append :
    countKeys required (ms ++ ms') s =
      if (countKeys required ms s).1 = true then countKeys required ms s
      else countKeys required ms' (countKeys required ms s).2 := by
  induction ms generalizing s with
  | nil => rfl
  | cons m ms ih =>
      rw [List.cons_append, countKeys, countKeys]
      by_cases hm : s.counter + 1 = required
      · simp only [if_pos hm, if_true]
      · simp only [if_neg hm]
        exact ih

theorem counter_of_countKeys (hs : s.counter < required)
    (h : (countKeys required ms s).1 = false) :
    (countKeys required ms s).2.counter < required := by
  induction ms generalizing s with
  | nil => exact hs
  | cons m ms ih =>
      rw [countKeys] at h ⊢
      by_cases hm : s.counter + 1 = required
      · rw [if_pos hm] at h
        cases h
      · rw [if_neg hm] at h ⊢
        apply ih _ h
        show s.counter + 1 < required
        omega

theorem readToken_some (token next : CStr) :
    readToken required token (some next) chains s =
      countKeys required (mentionsAt chains token next) s := by
  induction chains generalizing s with
  | nil => rfl
  | cons chain chains ih =>
      rw [readToken, mentionsAt, List.filterMap_cons]
      cases chain.find? fun key => token.strip.contains key.name with
      | none => exact ih
      | some key =>
          dsimp only [Option.map_some]
          rw [countKeys, ← mentionsAt, ← ih]
          rfl

theorem readToken_none (token : CStr) (hs : s.counter < required) :
    readToken required token none chains s = (false, s) := by
  induction chains with
  | nil => rfl
  | cons chain chains ih =>
      rw [readToken]
      cases chain.find? fun key => token.strip.contains key.name with
      | none => exact ih
      | some key =>
          dsimp only
          rw [if_neg (by omega), ih]

theorem readTokens_eq (tokens : List CStr) (hs : s.counter < required) :
    readTokens required chains tokens s =
      countKeys required (mentionsIn chains tokens) s := by
  induction tokens generalizing s with
  | nil => rfl
  | cons token rest ih =>
      rw [readTokens, mentionsIn]
      cases rest with
      | nil =>
          rw [List.head?_nil, readToken_none token hs]
          rfl
      | cons next rest =>
          rw [List.head?_cons, readToken_some, Option.elim_some,
            countKeys_append]
          cases hres : (countKeys required (mentionsAt chains token next) s).1
          · have hcounter := counter_of_countKeys hs hres
            rw [if_neg (by simp), ← ih hcounter]
            generalize countKeys required _ s = r at hres
            obtain ⟨_, _⟩ := r
            cases hres
            rfl
          · rw [if_pos rfl]
            generalize countKeys required _ s = r at hres
            obtain ⟨_, _⟩ := r
            cases hres
            rfl

/-- The loop comes to the first keys, as many as are required. -/
theorem countKeys_eq (hs : s.counter < required) :
    countKeys required ms s =
      (decide (required ≤ s.counter + ms.length),
        (ms.take (required - s.counter)).foldl record s) := by
  induction ms generalizing s with
  | nil =>
      rw [countKeys, List.take_nil]
      simp [hs]
  | cons m ms ih =>
      have htake : required - s.counter = required - (s.counter + 1) + 1 := by
        omega
      rw [countKeys, htake, List.take_succ_cons, List.foldl_cons,
        List.length_cons]
      by_cases hm : s.counter + 1 = required
      · rw [if_pos hm, hm, Nat.sub_self, List.take_zero]
        simp only [List.foldl_nil, Prod.mk.injEq, and_true]
        exact (decide_eq_true (by omega)).symm
      · rw [if_neg hm, ih (show s.counter + 1 < required by omega)]
        have hlen : (record s m).counter + ms.length =
            s.counter + (ms.length + 1) := by
          show s.counter + 1 + ms.length = _
          omega
        rw [hlen]
        rfl

/-- A variable holds what was behind its last key. -/
theorem vars_foldl_record (var : DevVar) :
    (ms.foldl record s).vars var =
      ((ms.filter fun m => m.1.var = var).getLast?.map Prod.snd).getD
        (s.vars var) := by
  induction ms using List.reverseRecOn with
  | nil => rfl
  | append_singleton ms m ih =>
      rw [List.foldl_append, List.filter_append]
      show Function.update (ms.foldl record s).vars m.1.var m.2 var = _
      by_cases hvar : m.1.var = var
      · subst hvar
        rw [Function.update_self, List.filter_singleton]
        simp
      · rw [Function.update_of_ne (Ne.symm hvar), ih,
          List.filter_singleton]
        simp [hvar]

end Loop

/-! ## The file -/

section File

variable {lib : DevLibrary} {text : List UInt8}

theorem placesIn_cons (chains : List (List DevKey)) (part : CStr)
    (parts : List CStr) :
    placesIn chains (part :: parts) =
      keysIn chains part + placesIn chains parts := by
  simp [placesIn]

theorem contains_key_strip {key : DevKey} (hkey : key ∈ lib.keys)
    (part : CStr) : part.strip.contains key.name = part.contains key.name :=
  CStr.contains_strip (lib.stripped key hkey)

/-- A key is found in a part just if it is in it. -/
theorem find?_strip {chain : List DevKey} (hkeys : chain ⊆ lib.keys)
    (part : CStr) :
    (chain.find? fun key => part.strip.contains key.name) =
      chain.find? fun key => part.contains key.name := by
  apply List.find?_congr
  intro key hkey
  exact contains_key_strip (hkeys hkey) part

theorem isSome_find?_key (chain : List DevKey) (part : CStr) :
    (chain.find? fun key => part.contains key.name).isSome =
      chain.any fun key => part.contains key.name := by
  rw [Bool.eq_iff_iff, List.find?_isSome, List.any_eq_true]

theorem chain_subset {chain : List DevKey} (h : chain ∈ lib.chains) :
    chain ⊆ lib.keys := fun _ hkey =>
  List.mem_flatten.mpr ⟨chain, h, hkey⟩

theorem mentionsAt_eq {chains : List (List DevKey)}
    (hchains : chains ⊆ lib.chains) (part next : CStr) :
    mentionsAt chains part next = chains.filterMap fun chain =>
      (chain.find? fun key => part.contains key.name).map (·, next.strip) := by
  apply List.filterMap_congr
  intro chain hchain
  rw [find?_strip (chain_subset (hchains hchain))]

theorem length_mentionsAt (part next : CStr) :
    (mentionsAt lib.chains part next).length = keysIn lib.chains part := by
  rw [mentionsAt_eq (List.Subset.refl _), List.length_filterMap_eq_countP]
  apply List.countP_congr
  intro chain _
  rw [Option.isSome_map, isSome_find?_key]

/-- The keys that are found in a part, by their number. -/
theorem getElem?_mentionsAt {part next : CStr} {n : ℕ} {m : DevKey × CStr} :
    (mentionsAt lib.chains part next)[n]? = some m ↔
      ∃ chains chain chains', lib.chains = chains ++ chain :: chains' ∧
        (chain.find? fun key => part.contains key.name) = some m.1 ∧
        next.strip = m.2 ∧ keysIn chains part = n := by
  rw [mentionsAt_eq (List.Subset.refl _), getElem?_filterMap_iff]
  have hcount : ∀ chains : List (List DevKey),
      (chains.countP fun chain => (Option.map (·, next.strip)
        (chain.find? fun key => part.contains key.name)).isSome) =
        keysIn chains part := by
    intro chains
    apply List.countP_congr
    intro chain _
    rw [Option.isSome_map, isSome_find?_key]
  simp only [hcount, Option.map_eq_some_iff, Prod.ext_iff]
  constructor
  · rintro ⟨chains, chain, chains', heq, ⟨key, hfound, hkey, hnext⟩, hn⟩
    exact ⟨chains, chain, chains', heq, hkey ▸ hfound, hnext, hn⟩
  · rintro ⟨chains, chain, chains', heq, hfound, hnext, hn⟩
    exact ⟨chains, chain, chains', heq, ⟨m.1, hfound, rfl, hnext⟩, hn⟩

theorem mentionsIn_cons (token next : CStr) (rest : List CStr) :
    mentionsIn lib.chains (token :: next :: rest) =
      mentionsAt lib.chains token next ++
        mentionsIn lib.chains (next :: rest) := rfl

theorem length_mentionsIn (parts : List CStr) :
    (mentionsIn lib.chains parts).length =
      placesIn lib.chains parts.dropLast := by
  induction parts with
  | nil => simp [mentionsIn, placesIn]
  | cons part rest ih =>
      cases rest with
      | nil => simp [mentionsIn, placesIn]
      | cons next rest =>
          rw [List.dropLast_cons_cons, placesIn_cons, ← ih, mentionsIn_cons,
            List.length_append, length_mentionsAt]

/-- The places are as many as the keys that are found. -/
theorem length_mentions (lib : DevLibrary) (text : List UInt8) :
    (lib.mentions text).length = lib.places text :=
  length_mentionsIn (devParts text)

/-- What is found in the parts, part by part. -/
theorem getElem?_mentionsIn {parts : List CStr} {n : ℕ} {m : DevKey × CStr} :
    (mentionsIn lib.chains parts)[n]? = some m ↔
      ∃ pre part next post i, parts = pre ++ part :: next :: post ∧
        (mentionsAt lib.chains part next)[i]? = some m ∧
        placesIn lib.chains pre + i = n := by
  induction parts generalizing n with
  | nil => simp [mentionsIn]
  | cons token rest ih =>
      cases rest with
      | nil =>
          refine iff_of_false (by simp [mentionsIn]) ?_
          rintro ⟨pre, part, next, post, i, heq, -⟩
          have hlen := congrArg List.length heq
          simp at hlen
          omega
      | cons token' rest =>
          rw [mentionsIn_cons]
          constructor
          · intro h
            by_cases hn : n < (mentionsAt lib.chains token token').length
            · rw [List.getElem?_append_left hn] at h
              exact ⟨[], token, token', rest, n, rfl, h, by simp [placesIn]⟩
            · rw [List.getElem?_append_right (by omega)] at h
              obtain ⟨pre, part, next, post, i, heq, hi, hnum⟩ := ih.mp h
              refine ⟨token :: pre, part, next, post, i, by simp [heq], hi, ?_⟩
              rw [placesIn_cons, ← length_mentionsAt token token']
              omega
          · rintro ⟨pre, part, next, post, i, heq, hi, rfl⟩
            cases pre with
            | nil =>
                obtain ⟨rfl, hrest⟩ := List.cons.inj heq
                obtain ⟨rfl, rfl⟩ := List.cons.inj hrest
                have hlt := (List.getElem?_eq_some_iff.mp hi).1
                have hnil : placesIn lib.chains [] + i = i := by
                  simp [placesIn]
                rw [hnil, List.getElem?_append_left hlt]
                exact hi
            | cons x pre =>
                obtain ⟨rfl, hrest⟩ := List.cons.inj heq
                rw [placesIn_cons, ← length_mentionsAt token token',
                  Nat.add_assoc, List.getElem?_append_right (by omega),
                  Nat.add_sub_cancel_left]
                exact ih.mpr ⟨pre, part, next, post, i, hrest, hi, rfl⟩

/-- A key that is found is one at a place. -/
theorem getElem?_mentions {n : ℕ} {m : DevKey × CStr} :
    (lib.mentions text)[n]? = some m ↔
      ∃ p : lib.Place text, p.number = n ∧ p.key = m.1 ∧
        p.next.strip = m.2 := by
  rw [DevLibrary.mentions, getElem?_mentionsIn]
  constructor
  · rintro ⟨pre, part, next, post, i, hparts, hi, hn⟩
    obtain ⟨chains, chain, chains', hchains, hfound, hnext, rfl⟩ :=
      getElem?_mentionsAt.mp hi
    exact ⟨⟨pre, part, next, post, chains, chain, chains', m.1, hparts,
      hchains, hfound⟩, hn, rfl, hnext⟩
  · rintro ⟨p, hn, hkey, hnext⟩
    refine ⟨p.before, p.part, p.next, p.behind, keysIn p.chains p.part,
      p.parts_eq, ?_, hn⟩
    exact getElem?_mentionsAt.mpr ⟨p.chains, p.chain, p.chains', p.chains_eq,
      hkey ▸ p.found, hnext, rfl⟩

theorem mentions_of_tokens {pre post : List CStr} {part next : CStr}
    {chains : List (List DevKey)} {m : DevKey × CStr}
    (hm : m ∈ mentionsAt chains part next) :
    m ∈ mentionsIn chains (pre ++ part :: next :: post) := by
  induction pre with
  | nil => exact List.mem_append_left _ hm
  | cons token pre ih => exact List.mem_append_right _ ih

/-- A key that the file sets is found. -/
theorem mention_of_sets {key : DevKey} (hkey : key ∈ lib.keys)
    {value : List UInt8} (hnul : 0 ∉ text)
    (h : KeyLines.Sets text key.name value) :
    ∃ next, (key, next) ∈ lib.mentions text := by
  obtain ⟨chain, hchain, hmem⟩ := List.mem_flatten.mp hkey
  obtain ⟨pre, part, next, post, htokens, hpart⟩ :=
    KeyLines.tokens_of_keyValue (p := isDevDelim)
      (by rintro b (rfl | rfl) <;> decide) (forall_byte (by decide +kernel))
      (lib.undelimited key hkey) hnul h
  have hstrip : part.strip = key.name := CStr.ext hpart
  refine ⟨next.strip, ?_⟩
  rw [DevLibrary.mentions, devParts, htokens]
  apply mentions_of_tokens
  refine List.mem_filterMap.mpr ⟨chain, hchain, ?_⟩
  rw [hstrip]
  have hself : key.name.contains key.name = true :=
    CStr.contains_iff.mpr List.infix_rfl
  cases hfind : chain.find? fun key' => key.name.contains key'.name with
  | none =>
      have hnone := List.find?_eq_none.mp hfind key hmem
      exact absurd hself hnone
  | some key' =>
      have hcontains := List.find?_some hfind
      rw [lib.apart chain hchain key hmem key' (List.mem_of_find?_eq_some hfind)
        hcontains]
      rfl

/-- A file with all keys, and no NUL, has places enough. -/
theorem required_le_places (hnul : 0 ∉ text) (h : lib.AllSet text) :
    lib.required ≤ lib.places text := by
  have hsub : lib.keys ⊆ (lib.mentions text).map Prod.fst := by
    intro key hkey
    obtain ⟨value, hvalue⟩ := h key hkey
    obtain ⟨next, hnext⟩ := mention_of_sets hkey hnul hvalue
    exact List.mem_map.mpr ⟨_, hnext, rfl⟩
  rw [← lib.required_eq, ← length_mentions,
    ← List.length_map (f := Prod.fst)]
  exact (lib.nodup.of_map.subperm hsub).length_le

/-- Where a file is named, the broadband library has its own interfaces
afterwards, whether or not it could be read. -/
theorem readDevFile_broadband (devfilebuffer : Option (List UInt8))
    (vars : DevVars) :
    (readDevFile broadbandLibrary (some devfilebuffer) vars).2 .mocaIface =
        .lit "brlan10" ∧
      (readDevFile broadbandLibrary (some devfilebuffer) vars).2 .wifiIface =
        .lit "brlan0:0" :=
  ⟨rfl, rfl⟩

/-- The interfaces are not what a key is for. -/
theorem vars_interfaces {key : DevKey} (hkey : key ∈ lib.keys)
    (vars : DevVars) :
    lib.interfaces.foldl (fun vars i => Function.update vars i.1 i.2) vars
      key.var = vars key.var := by
  have hkept := lib.kept
  generalize lib.interfaces = is at hkept
  induction is generalizing vars with
  | nil => rfl
  | cons i is ih =>
      obtain ⟨hi, his⟩ := List.forall_mem_cons.mp hkept
      rw [List.foldl_cons, ih _ his, Function.update_of_ne (hi key hkey)]

theorem readDevFile_result :
    (readDevFile lib (some (some text)) unset).1 = true ↔
      lib.required ≤ lib.places text := by
  rw [← length_mentions]
  have hs : (⟨0, unset⟩ : DevState).counter < lib.required := lib.pos
  show (readTokens lib.required lib.chains _ _).1 = true ↔ _
  rw [readTokens_eq _ hs, countKeys_eq hs]
  simp [DevLibrary.mentions, devParts]

theorem readDevFile_vars {key : DevKey} (hkey : key ∈ lib.keys) :
    (readDevFile lib (some (some text)) unset).2 key.var =
      (lib.lastMention text key.var).getD .empty := by
  have hs : (⟨0, unset⟩ : DevState).counter < lib.required := lib.pos
  show lib.interfaces.foldl _ (readTokens lib.required lib.chains _ _).2.vars
    key.var = _
  rw [vars_interfaces hkey, readTokens_eq _ hs, countKeys_eq hs,
    vars_foldl_record]
  rfl

/-- The last of what counts for a variable. -/
theorem lastMention_iff {var : DevVar} {value : CStr} :
    lib.lastMention text var = some value ↔
      ∃ p : lib.Place text, p.key.var = var ∧ p.number < lib.required ∧
        p.next.strip = value ∧ ∀ q : lib.Place text, q.key.var = var →
          q.number < lib.required → q.number ≤ p.number := by
  rw [DevLibrary.lastMention, Option.map_eq_some_iff]
  simp only [getLast?_filter_take_iff, decide_eq_true_eq, getElem?_mentions]
  constructor
  · rintro ⟨m, ⟨n, hn, ⟨p, rfl, hkey, hnext⟩, hvar, hlast⟩, rfl⟩
    refine ⟨p, hkey ▸ hvar, hn, hnext, fun q hq hlt => ?_⟩
    exact hlast q.number (q.key, q.next.strip) hlt ⟨q, rfl, rfl, rfl⟩ hq
  · rintro ⟨p, hvar, hn, hnext, hlast⟩
    refine ⟨(p.key, value), ⟨p.number, hn, ⟨p, rfl, rfl, hnext⟩, hvar, ?_⟩, rfl⟩
    rintro n m hlt ⟨q, rfl, hkey, -⟩ hm
    exact hlast q (hkey ▸ hm) hlt

/-- What counts last is right for each variable. -/
theorem lastRight_iff : lib.LastRight text ↔ ∀ key ∈ lib.keys, ∃ value,
    lib.lastMention text key.var = some value ∧
      lib.SetsVar text key.var value := by
  apply forall₂_congr
  intro key _
  simp only [lastMention_iff]
  constructor
  · rintro ⟨p, hvar, hlt, hsets, hlast⟩
    exact ⟨_, ⟨p, hvar, hlt, rfl, hlast⟩, hsets⟩
  · rintro ⟨value, ⟨p, hvar, hlt, rfl, hlast⟩, hsets⟩
    exact ⟨p, hvar, hlt, hsets, hlast⟩

/-- The variables hold values of theirs exactly if what counts last is one. -/
theorem setsVar_iff_lastRight :
    (∀ key ∈ lib.keys, lib.SetsVar text key.var
        ((readDevFile lib (some (some text)) unset).2 key.var)) ↔
      lib.LastRight text := by
  rw [lastRight_iff]
  apply forall₂_congr
  intro key hkey
  rw [readDevFile_vars hkey]
  cases lib.lastMention text key.var with
  | none =>
      refine iff_of_false ?_ (by simp)
      rintro ⟨key', -, -, line, -, hvalue⟩
      exact (KeyLines.keyValue_eq_some.mp hvalue).2.2.2 rfl
  | some value => simp

/-- **Nothing is missed.** A file with all keys, and no NUL, counts as read. -/
theorem readDevFile_complete (hnul : 0 ∉ text) (h : lib.AllSet text) :
    (readDevFile lib (some (some text)) unset).1 = true :=
  readDevFile_result.mpr (required_le_places hnul h)

/-- **Read.** The result is right exactly if the places of other keys do not
make up for one that is missing, and where none is missing there are places
enough just if the last of those that count is right for each variable. -/
theorem readDevFile_iff (lib : DevLibrary) (text : List UInt8) :
    DevFileRead lib text ↔
      (¬ lib.AllSet text → lib.places text < lib.required) ∧
        (lib.AllSet text →
          (lib.required ≤ lib.places text ↔ lib.LastRight text)) := by
  rw [DevFileRead, setsVar_iff_lastRight, readDevFile_result]
  by_cases h : lib.AllSet text <;> simp [h]

/-- Without a NUL there are places enough where no key is missing. -/
theorem readDevFile_iff_of_no_nul (hnul : 0 ∉ text) :
    DevFileRead lib text ↔
      lib.places text < lib.required ∨
        lib.AllSet text ∧ lib.LastRight text := by
  have hplaces := @required_le_places lib text hnul
  rw [readDevFile_iff]
  by_cases h : lib.AllSet text
  · have hle := hplaces h
    simp [h, hle]
  · simp [h]

end File

/-- The model twice, and no maker. -/
def twiceFile : List UInt8 :=
  CStr.ascii "DEVICE_TYPE=stb\nBUILD_VERSION=2\nBOX_TYPE=XG1\n" ++
    CStr.ascii "MOCA_INTERFACE=m0\nWIFI_INTERFACE=w0\n" ++
    CStr.ascii "MODEL_NUM=P1\nMODEL_NUM=P1\n"

/-- A key that is there twice stands in for one that is missing. -/
theorem readDevFile_twice :
    (readDevFile videoLibrary (some (some twiceFile)) unset).1 = true ∧
      (readDevFile videoLibrary (some (some twiceFile)) unset).2 .make =
        .empty ∧
      ¬ DevFileRead videoLibrary twiceFile := by
  have htokens : (CStr.upToNul twiceFile).tokens isDevDelim =
      [.lit "DEVICE_TYPE", .lit "stb", .lit "BUILD_VERSION", .lit "2",
        .lit "BOX_TYPE", .lit "XG1", .lit "MOCA_INTERFACE", .lit "m0",
        .lit "WIFI_INTERFACE", .lit "w0", .lit "MODEL_NUM", .lit "P1",
        .lit "MODEL_NUM", .lit "P1", .empty] := by decide +kernel
  have hlines : ∀ line ∈ KeyLines.lines twiceFile,
      KeyLines.keyValue (.lit "MFG_NAME") line = none := by decide +kernel
  have hresult : (readDevFile videoLibrary (some (some twiceFile)) unset).1 =
      true := by
    rw [readDevFile, htokens]
    decide +kernel
  have hmake : (readDevFile videoLibrary (some (some twiceFile)) unset).2
      .make = .empty := by
    rw [readDevFile, htokens]
    decide +kernel
  refine ⟨hresult, hmake, fun h => ?_⟩
  obtain ⟨value, line, hline, hvalue⟩ :=
    (h.mp hresult).1 ⟨.lit "MFG_NAME", .make⟩ (by decide +kernel)
  rw [hlines line hline] at hvalue
  cases hvalue

/-! ## Plain files -/

/-- A line of a file. -/
structure Setting where
  name : List UInt8
  value : List UInt8

def Setting.line (s : Setting) : List UInt8 := s.name ++ 0x3D :: s.value

/-- The line is for the key. -/
def Setting.Names (s : Setting) (key : DevKey) : Prop :=
  CStr.stripBytes s.name = key.name.bytes

instance (s : Setting) : DecidablePred s.Names := fun _ =>
  inferInstanceAs (Decidable (_ = _))

/-- Nothing else than the key a line is for is taken for a key. -/
structure DevLibrary.PlainSetting (lib : DevLibrary) (s : Setting) : Prop where
  name_free : ∀ b ∈ s.name, isDevDelim b = false ∧ b ≠ 0
  value_free : ∀ b ∈ s.value, isDevDelim b = false ∧ b ≠ 0
  not_blank : CStr.stripBytes s.value ≠ []
  names : ∀ key ∈ lib.keys, key.name.bytes <:+: s.name → s.Names key
  values : ∀ key ∈ lib.keys, ¬ key.name.bytes <:+: s.value

def settingsText (ss : List Setting) : List UInt8 :=
  Stdio.unlines 0x0A (ss.map Setting.line)

/-- The key a line is for, if it is for one. -/
def DevLibrary.keyOf (lib : DevLibrary) (s : Setting) : Option DevKey :=
  lib.keys.find? fun key => s.Names key

/-- The keys of the lines, in their order. -/
def DevLibrary.keyLines (lib : DevLibrary) (ss : List Setting) : List DevKey :=
  ss.filterMap lib.keyOf

section Plain

variable {lib : DevLibrary} {s : Setting} {ss : List Setting}

/-- The first of a kind in lists in a row, if there is only one of it. -/
theorem filterMap_find? {α : Type} {q : α → Bool} {ls : List (List α)}
    (hnodup : ls.flatten.Nodup)
    (hq : ∀ a ∈ ls.flatten, ∀ b ∈ ls.flatten, q a = true → q b = true →
      a = b) :
    ls.filterMap (·.find? q) = (ls.flatten.find? q).toList := by
  induction ls with
  | nil => rfl
  | cons l ls ih =>
      rw [List.flatten_cons] at hnodup hq ⊢
      have hrest := ih hnodup.of_append_right fun a ha b hb =>
        hq a (List.mem_append_right _ ha) b (List.mem_append_right _ hb)
      rw [List.filterMap_cons, List.find?_append, hrest]
      cases hfind : l.find? q with
      | none => rfl
      | some a =>
          have hmem := List.mem_of_find?_eq_some hfind
          have hnone : ls.flatten.find? q = none := by
            apply List.find?_eq_none.mpr
            intro b hb hqb
            have hab := hq a (List.mem_append_left _ hmem) b
              (List.mem_append_right _ hb) (List.find?_some hfind) hqb
            exact (List.disjoint_of_nodup_append hnodup) hmem (hab ▸ hb)
          rw [hnone]
          rfl

theorem names_unique {key key' : DevKey} (hkey : key ∈ lib.keys)
    (hkey' : key' ∈ lib.keys) (h : s.Names key) (h' : s.Names key') :
    key = key' := by
  apply List.inj_on_of_nodup_map lib.nodup hkey hkey'
  exact CStr.ext (h.symm.trans h')

theorem keyOf_eq_some {key : DevKey} :
    lib.keyOf s = some key ↔ key ∈ lib.keys ∧ s.Names key := by
  constructor
  · intro h
    have hnames := List.find?_some h
    exact ⟨List.mem_of_find?_eq_some h, of_decide_eq_true hnames⟩
  · rintro ⟨hkey, hnames⟩
    cases hfind : lib.keyOf s with
    | none =>
        have hnone := List.find?_eq_none.mp hfind key hkey
        exact absurd (decide_eq_true hnames) hnone
    | some key' =>
        have hkey' := List.mem_of_find?_eq_some hfind
        have hnames' := List.find?_some hfind
        rw [names_unique hkey hkey' hnames (of_decide_eq_true hnames')]

/-- The name of a line has a key in it exactly if the line is for the key. -/
theorem contains_name (hs : lib.PlainSetting s) {key : DevKey}
    (hkey : key ∈ lib.keys) :
    (CStr.ofBytes s.name).strip.contains key.name = decide (s.Names key) := by
  have hbytes : (CStr.ofBytes s.name).bytes = s.name :=
    CStr.bytes_ofBytes fun h => (hs.name_free 0 h).2 rfl
  rw [contains_key_strip hkey, Bool.eq_iff_iff, CStr.contains_iff, hbytes,
    decide_eq_true_eq]
  refine ⟨hs.names key hkey, fun h => ?_⟩
  rw [← h]
  exact CStr.stripBytes_infix s.name

/-- A name counts for its key. -/
theorem mentionsAt_name (hs : lib.PlainSetting s) (next : CStr) :
    mentionsAt lib.chains (.ofBytes s.name) next =
      ((lib.keyOf s).map (·, next.strip)).toList := by
  have hchain : ∀ chain ∈ lib.chains,
      (chain.find? fun key =>
          (CStr.ofBytes s.name).strip.contains key.name) =
        chain.find? fun key => s.Names key := by
    intro chain hchain
    apply List.find?_congr
    intro key hkey
    exact contains_name hs (List.mem_flatten.mpr ⟨chain, hchain, hkey⟩)
  have hfind : lib.chains.filterMap (·.find? fun key => s.Names key) =
      (lib.keyOf s).toList := by
    apply filterMap_find? lib.nodup.of_map
    intro a ha b hb hqa hqb
    exact names_unique ha hb (of_decide_eq_true hqa) (of_decide_eq_true hqb)
  have hmap : mentionsAt lib.chains (.ofBytes s.name) next =
      lib.chains.filterMap fun chain =>
        (chain.find? fun key => s.Names key).map (·, next.strip) := by
    apply List.filterMap_congr
    intro chain hmem
    rw [hchain chain hmem]
  rw [hmap, ← List.map_filterMap, hfind]
  cases lib.keyOf s <;> rfl

/-- A value counts for none. -/
theorem mentionsAt_value (hs : lib.PlainSetting s) (next : CStr) :
    mentionsAt lib.chains (.ofBytes s.value) next = [] := by
  have hbytes : (CStr.ofBytes s.value).bytes = s.value :=
    CStr.bytes_ofBytes fun h => (hs.value_free 0 h).2 rfl
  apply List.filterMap_eq_nil_iff.mpr
  intro chain hchain
  rw [Option.map_eq_none_iff, List.find?_eq_none]
  intro key hkey
  have hmem : key ∈ lib.keys := List.mem_flatten.mpr ⟨chain, hchain, hkey⟩
  rw [contains_key_strip hmem, CStr.contains_iff, hbytes]
  exact hs.values key hmem

/-- The parts of a line. -/
def Setting.parts (s : Setting) : List CStr :=
  [.ofBytes s.name, .ofBytes s.value]

theorem mentionsIn_parts (hss : ∀ s ∈ ss, lib.PlainSetting s) :
    mentionsIn lib.chains (ss.flatMap Setting.parts ++ [.empty]) =
      ss.filterMap fun s =>
        (lib.keyOf s).map (·, (CStr.ofBytes s.value).strip) := by
  induction ss with
  | nil => rfl
  | cons s ss ih =>
      obtain ⟨hs, hss⟩ := List.forall_mem_cons.mp hss
      have hvalue : mentionsIn lib.chains
          (.ofBytes s.value :: (ss.flatMap Setting.parts ++ [.empty])) =
            mentionsIn lib.chains (ss.flatMap Setting.parts ++ [.empty]) := by
        cases hrest : ss.flatMap Setting.parts ++ [CStr.empty] with
        | nil => simp at hrest
        | cons next rest =>
            rw [mentionsIn, List.head?_cons, Option.elim_some,
              mentionsAt_value hs, List.nil_append]
      show mentionsAt lib.chains (.ofBytes s.name) (.ofBytes s.value) ++
        mentionsIn lib.chains (.ofBytes s.value ::
          (ss.flatMap Setting.parts ++ [.empty])) = _
      rw [mentionsAt_name hs, hvalue, ih hss, List.filterMap_cons]
      cases lib.keyOf s <;> rfl

theorem splitOnP_line (hs : lib.PlainSetting s) :
    s.line.splitOnP isDevDelim = [s.name, s.value] := by
  have hname : ∀ b ∈ s.name, isDevDelim b = false := fun b hb =>
    (hs.name_free b hb).1
  have hvalue : ∀ b ∈ s.value, isDevDelim b = false := fun b hb =>
    (hs.value_free b hb).1
  rw [Setting.line, List.splitOnP_append_cons _ _ (by decide),
    List.splitOnP_eq_singleton hname, List.splitOnP_eq_singleton hvalue]
  rfl

theorem mem_line (hs : lib.PlainSetting s) {b : UInt8} (hb : b ∈ s.line) :
    b = 0x3D ∨ isDevDelim b = false ∧ b ≠ 0 := by
  rcases List.mem_append.mp hb with hb | hb
  · exact .inr (hs.name_free b hb)
  · rcases List.mem_cons.mp hb with hb | hb
    · exact .inl hb
    · exact .inr (hs.value_free b hb)

theorem settingsText_nul (hss : ∀ s ∈ ss, lib.PlainSetting s) :
    0 ∉ settingsText ss := by
  intro h
  obtain ⟨line, hline, hmem⟩ := List.mem_flatMap.mp h
  obtain ⟨s, hs, rfl⟩ := List.mem_map.mp hline
  rcases List.mem_append.mp hmem with hmem | hmem
  · rcases mem_line (hss s hs) hmem with hzero | ⟨-, hzero⟩
    · cases hzero
    · exact hzero rfl
  · exact absurd hmem (by decide)

theorem splitOnP_settingsText (hss : ∀ s ∈ ss, lib.PlainSetting s) :
    (settingsText ss).splitOnP isDevDelim =
      (ss.flatMap fun s => [s.name, s.value]) ++ [[]] := by
  rw [settingsText, KeyLines.splitOnP_unlines (by decide), List.flatMap_map]
  congr 1
  apply List.flatMap_congr
  intro s hs
  exact splitOnP_line (hss s hs)

/-- The lines with a key are what counts. -/
theorem mentions_settingsText (hss : ∀ s ∈ ss, lib.PlainSetting s) :
    lib.mentions (settingsText ss) = ss.filterMap fun s =>
      (lib.keyOf s).map (·, (CStr.ofBytes s.value).strip) := by
  have hbytes := CStr.bytes_upToNul_of_free (settingsText_nul hss)
  rw [← mentionsIn_parts hss, DevLibrary.mentions, devParts, CStr.tokens,
    hbytes, CStr.splitSet, hbytes, splitOnP_settingsText hss]
  split
  · next hnil =>
      obtain rfl : ss = [] := by
        cases ss with
        | nil => rfl
        | cons s ss => simp [settingsText, Stdio.unlines] at hnil
      rfl
  · congr 1
    rw [List.map_append, List.map_flatMap]
    rfl

theorem sets_settingsText (hss : ∀ s ∈ ss, lib.PlainSetting s) {key : DevKey}
    {value : List UInt8} :
    KeyLines.Sets (settingsText ss) key.name value ↔
      ∃ s ∈ ss, s.Names key ∧ CStr.stripBytes s.value = value := by
  have hlines : KeyLines.lines (settingsText ss) =
      ss.map Setting.line ++ [[]] := by
    apply KeyLines.lines_unlines
    intro line hline hmem
    obtain ⟨s, hs, rfl⟩ := List.mem_map.mp hline
    rcases mem_line (hss s hs) hmem with hnl | ⟨hnl, -⟩
    · cases hnl
    · exact absurd hnl (by decide)
  have hvalue : ∀ s ∈ ss, KeyLines.keyValue key.name s.line = some value ↔
      s.Names key ∧ CStr.stripBytes s.value = value := by
    intro s hs
    have hname : 0x3D ∉ s.name := fun h =>
      absurd ((hss s hs).name_free _ h).1 (by decide)
    rw [Setting.line, KeyLines.keyValue_join hname, ← and_assoc]
    refine and_iff_left_of_imp ?_
    rintro ⟨-, rfl⟩
    exact (hss s hs).not_blank
  unfold KeyLines.Sets
  rw [hlines]
  constructor
  · rintro ⟨line, hline, h⟩
    rcases List.mem_append.mp hline with hline | hline
    · obtain ⟨s, hs, rfl⟩ := List.mem_map.mp hline
      exact ⟨s, hs, (hvalue s hs).mp h⟩
    · rw [List.mem_singleton.mp hline] at h
      cases h
  · rintro ⟨s, hs, h⟩
    refine ⟨s.line, ?_, (hvalue s hs).mpr h⟩
    exact List.mem_append_left _ (List.mem_map_of_mem hs)

theorem mem_keyLines {key : DevKey} :
    key ∈ lib.keyLines ss ↔ key ∈ lib.keys ∧ ∃ s ∈ ss, s.Names key := by
  simp only [DevLibrary.keyLines, List.mem_filterMap, keyOf_eq_some]
  tauto

theorem allSet_settingsText (hss : ∀ s ∈ ss, lib.PlainSetting s) :
    lib.AllSet (settingsText ss) ↔ ∀ key ∈ lib.keys, key ∈ lib.keyLines ss := by
  apply forall₂_congr
  intro key hkey
  rw [mem_keyLines, and_iff_right hkey]
  simp only [sets_settingsText hss]
  constructor
  · rintro ⟨_, s, hs, hnames, -⟩
    exact ⟨s, hs, hnames⟩
  · rintro ⟨s, hs, hnames⟩
    exact ⟨_, s, hs, hnames, rfl⟩

theorem map_fst_mentions (hss : ∀ s ∈ ss, lib.PlainSetting s) :
    (lib.mentions (settingsText ss)).map Prod.fst = lib.keyLines ss := by
  rw [mentions_settingsText hss, List.map_filterMap]
  apply List.filterMap_congr
  intro s _
  cases lib.keyOf s <;> rfl

/-- What counts in a plain file is a value. -/
theorem lastRight_settingsText (hss : ∀ s ∈ ss, lib.PlainSetting s) :
    lib.LastRight (settingsText ss) ↔ ∀ key ∈ lib.keys,
      ∃ key' ∈ (lib.keyLines ss).take lib.required, key'.var = key.var := by
  rw [lastRight_iff]
  apply forall₂_congr
  intro key _
  rw [← map_fst_mentions hss, ← List.map_take]
  constructor
  · rintro ⟨value, hlast, -⟩
    obtain ⟨m, hm, -⟩ := Option.map_eq_some_iff.mp hlast
    obtain ⟨hmem, hvar⟩ := List.mem_filter.mp (List.mem_of_getLast? hm)
    exact ⟨m.1, List.mem_map_of_mem hmem, of_decide_eq_true hvar⟩
  · rintro ⟨key', hkey', hvar⟩
    obtain ⟨m, hm, rfl⟩ := List.mem_map.mp hkey'
    cases hlast : lib.lastMention (settingsText ss) key.var with
    | none =>
        have hnil := List.getLast?_eq_none_iff.mp
          (Option.map_eq_none_iff.mp hlast)
        have hnone := List.filter_eq_nil_iff.mp hnil m hm
        exact absurd (decide_eq_true hvar) hnone
    | some value =>
        refine ⟨value, rfl, ?_⟩
        obtain ⟨m', hm', rfl⟩ := Option.map_eq_some_iff.mp hlast
        obtain ⟨hmem, hvar'⟩ := List.mem_filter.mp (List.mem_of_getLast? hm')
        have hmem' := List.mem_of_mem_take hmem
        rw [mentions_settingsText hss] at hmem'
        obtain ⟨s, hs, hm'⟩ := List.mem_filterMap.mp hmem'
        obtain ⟨key'', hkey'', rfl⟩ := Option.map_eq_some_iff.mp hm'
        obtain ⟨hmemkey, hnames⟩ := keyOf_eq_some.mp hkey''
        refine ⟨key'', hmemkey, of_decide_eq_true hvar',
          (sets_settingsText hss).mpr ⟨s, hs, hnames, ?_⟩⟩
        show _ = CStr.stripBytes (CStr.ofBytes s.value).bytes
        rw [CStr.bytes_ofBytes fun h => ((hss s hs).value_free 0 h).2 rfl]

/-- **Plain files.** The result is right exactly if fewer lines have a key than
are required, or every key has a line and the first of these, as many as are
required, have one for each variable. -/
theorem readDevFile_plain (hss : ∀ s ∈ ss, lib.PlainSetting s) :
    DevFileRead lib (settingsText ss) ↔
      (lib.keyLines ss).length < lib.required ∨
        (∀ key ∈ lib.keys, key ∈ lib.keyLines ss) ∧ ∀ key ∈ lib.keys,
          ∃ key' ∈ (lib.keyLines ss).take lib.required, key'.var = key.var := by
  rw [readDevFile_iff_of_no_nul (settingsText_nul hss), ← length_mentions,
    ← List.length_map (f := Prod.fst), map_fst_mentions hss,
    allSet_settingsText hss, lastRight_settingsText hss]

end Plain

end Xupnp.XcalDevice
