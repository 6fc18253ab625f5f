import Xupnp.MediaBrowser.Client

/-!
# What arrives at the client

An index travels as an `int`, and the browser looks it up as an unsigned
number; the length of the list travels back as an `int`. While both fit, the
client sees exactly the list (`servers_seen`). The number of matches of a
`Browse` never arrives: the client is always told 0
(`browseContentOnServer_total_iff`), and pages accordingly.
-/

namespace Xupnp.MediaBrowser

open Xupnp.Library Locking

variable {S : Type}

/-! ## Indices -/

/-- A negative index is a large unsigned one. -/
theorem toUInt32_toNat (index : Int32) :
    (index.toUInt32.toNat : ℤ) =
      if 0 ≤ index.toInt then index.toInt else index.toInt + 2 ^ 32 := by
  have hlt := index.toUInt32.toNat_lt
  have hint : index.toInt =
      if 2 * index.toUInt32.toNat < 2 ^ 32 then (index.toUInt32.toNat : ℤ)
      else (index.toUInt32.toNat : ℤ) - 2 ^ 32 := by
    have := BitVec.toInt_eq_toNat_cond index.toBitVec
    rw [Int32.toInt_toBitVec, Int32.toNat_toBitVec] at this
    exact_mod_cast this
  rw [hint]
  split <;> split <;> omega

/-- `g_list_nth` in a list short enough for an `int`. -/
theorem nth_of_lt {α : Type} {l : List α} (hlen : l.length < 2 ^ 31)
    (index : Int32) :
    l[index.toUInt32.toNat]? =
      if 0 ≤ index.toInt then l[index.toInt.toNat]? else none := by
  have hindex := toUInt32_toNat index
  have hle := index.le_toInt
  split
  · next h =>
      rw [if_pos h] at hindex
      congr 1
      omega
  · next h =>
      rw [if_neg h] at hindex
      exact List.getElem?_eq_none (by omega)

/-! ## The servers one by one -/

/-- What the client is to be told of the server at an index. -/
def AnswersAt (p : Platform S) (s : Server S) (index : Int32)
    (friendlyName udn : Option CStr) : Prop :=
  let size := (getDiscoveredMediaServers p 0 s).1.2
  let answer := (getDiscoveredMediaServerAt p index friendlyName udn s).1
  if 0 ≤ index.toInt ∧ index.toInt < size.toInt then
    answer.err = 0 ∧
      ∃ ms, s.data[index.toInt.toNat]? = some ms ∧
        answer.friendlyName = some ms.friendlyname ∧
        answer.udn = some ms.udn
  else answer.err = 1

/-- The answers to the indices from `index` on, one call after the other. -/
def serversFrom (p : Platform S) : ℕ → Int32 → Server S → List MediaServerAt
  | 0, _, _ => []
  | n + 1, index, s =>
      let (answer, s') := getDiscoveredMediaServerAt p index none none s
      answer :: serversFrom p n (index + 1) s'

/-- Ask for the number of servers, then for each of them. -/
def allServers (p : Platform S) (s : Server S) : List MediaServerAt :=
  let ((_, size), s') := getDiscoveredMediaServers p 0 s
  serversFrom p size.toInt.toNat 0 s'

section Servers

variable {p : Platform S} {takes : ℕ → Bool}

theorem answersAt_of_lt (hp : p.Documented takes) {s : Server S}
    (hs : s.locked = false) (hlen : s.data.length < 2 ^ 31) (index : Int32)
    (friendlyName udn : Option CStr) :
    AnswersAt p s index friendlyName udn := by
  obtain ⟨s₁, hsize, -⟩ := getDiscoveredMediaServers_free hp hs 0
  obtain ⟨s₂, hanswer, -⟩ :=
    getDiscoveredMediaServerAt_free hp hs index friendlyName udn
  rw [AnswersAt, hsize, hanswer, nth_of_lt hlen]
  dsimp only
  rw [Int32.toInt_ofNat_of_lt hlen]
  by_cases hpos : 0 ≤ index.toInt
  · rw [if_pos hpos]
    cases hms : s.data[index.toInt.toNat]? with
    | none =>
        have hout := List.getElem?_eq_none_iff.mp hms
        rw [if_neg (by omega)]
    | some ms =>
        obtain ⟨hin, -⟩ := List.getElem?_eq_some_iff.mp hms
        rw [if_pos (by omega)]
        exact ⟨rfl, ms, rfl, rfl, rfl⟩
  · rw [if_neg hpos, if_neg (fun h => hpos h.1)]

/-- The answers from an index on are the rest of the list. -/
theorem serversFrom_eq (hp : p.Documented takes) {s : Server S}
    (hs : s.locked = false) (hlen : s.data.length < 2 ^ 31) {n k : ℕ}
    (hk : k + n = s.data.length) :
    serversFrom p n (Int32.ofNat k) s =
      (s.data.drop k).map fun ms =>
        ⟨true, some ms.friendlyname, some ms.udn, 0⟩ := by
  induction n generalizing k s with
  | zero =>
      rw [List.drop_eq_nil_of_le (by omega)]
      rfl
  | succ n ih =>
      obtain ⟨s', hanswer, hdata, hfree⟩ :=
        getDiscoveredMediaServerAt_free hp hs (Int32.ofNat k) none none
      have hin : k < s.data.length := by omega
      have hint : (Int32.ofNat k).toInt = k :=
        Int32.toInt_ofNat_of_lt (by omega)
      have hnext : Int32.ofNat k + 1 = Int32.ofNat (k + 1) :=
        (Int32.ofNat_add k 1).symm
      rw [nth_of_lt hlen, hint, if_pos (by omega), Int.toNat_natCast,
        List.getElem?_eq_getElem hin] at hanswer
      rw [serversFrom, hanswer, List.drop_eq_getElem_cons hin, List.map_cons]
      dsimp only
      rw [hnext, ih hfree (by rw [hdata]; exact hlen) (by rw [hdata]; omega),
        hdata]

/-- **The list at the client.** While `locker` is free and the list is short
enough for an `int`, every index is answered as it should be, and the indices
below the size give every server once, in order. -/
theorem servers_seen (hp : p.Documented takes) {s : Server S}
    (hs : s.locked = false) (hlen : s.data.length < 2 ^ 31) :
    (∀ index friendlyName udn, AnswersAt p s index friendlyName udn) ∧
      allServers p s = s.data.map fun ms =>
        ⟨true, some ms.friendlyname, some ms.udn, 0⟩ := by
  refine ⟨fun index friendlyName udn =>
    answersAt_of_lt hp hs hlen index friendlyName udn, ?_⟩
  obtain ⟨s', hsize, hdata, hfree⟩ := getDiscoveredMediaServers_free hp hs 0
  rw [allServers, hsize]
  dsimp only
  rw [Int32.toInt_ofNat_of_lt hlen, Int.toNat_natCast]
  have := serversFrom_eq hp hfree (by rw [hdata]; exact hlen) (n := s.data.length)
    (k := 0) (by rw [hdata, Nat.zero_add])
  rw [hdata, List.drop_zero] at this
  exact this

/-- Three servers, one after the other. -/
theorem servers_seen_three :
    allServers Platform.offline
      ⟨[⟨.lit "NAS", .lit "uuid:1", none⟩, ⟨.lit "PC", .lit "uuid:2", none⟩,
        ⟨.lit "TV", .lit "uuid:3", some ()⟩], []⟩ =
      [⟨true, some (.lit "NAS"), some (.lit "uuid:1"), 0⟩,
        ⟨true, some (.lit "PC"), some (.lit "uuid:2"), 0⟩,
        ⟨true, some (.lit "TV"), some (.lit "uuid:3"), 0⟩] :=
  (servers_seen (Platform.plain_documented _) rfl (by decide)).2

/-- A list too long for an `int` has a negative size, and its first server is
found nevertheless. With `locker` held there is no answer at all. -/
theorem servers_unseen :
    ¬ AnswersAt Platform.offline
        ⟨List.replicate (2 ^ 31) ⟨.lit "NAS", .lit "uuid:1", none⟩, []⟩ 0
        none none ∧
      ¬ AnswersAt Platform.offline
        ⟨[⟨.lit "NAS", .lit "uuid:1", none⟩], [true]⟩ 0 none none := by
  constructor
  · have hlong : ∀ s : Server Unit, s.locked = false →
        s.data.length = 2 ^ 31 →
        ¬ AnswersAt Platform.offline s 0 none none := by
      intro s hs hlen h
      have hp := Platform.plain_documented fun (_ : Option Unit) _ =>
        BrowseReply.error
      obtain ⟨s₁, hsize, -⟩ := getDiscoveredMediaServers_free hp hs 0
      obtain ⟨s₂, hanswer, -⟩ :=
        getDiscoveredMediaServerAt_free hp hs 0 none none
      have hnth : s.data[(0 : Int32).toUInt32.toNat]? = some s.data[0] :=
        List.getElem?_eq_getElem _
      have hsmall : ¬ ((0 : ℤ) ≤ (0 : Int32).toInt ∧
          (0 : Int32).toInt < (Int32.ofNat (2 ^ 31)).toInt) := by decide
      rw [AnswersAt, Platform.offline, hsize, hanswer, hlen, hnth] at h
      dsimp only at h
      rw [if_neg hsmall] at h
      cases h
    exact hlong _ rfl List.length_replicate
  · intro h
    rw [AnswersAt] at h
    dsimp only at h
    rw [if_neg (by decide +kernel)] at h
    exact absurd h (by decide +kernel)

end Servers

/-! ## Paging through a directory -/

/-- The page arrives as the media server answered it. -/
def Arrives (answer : BrowseContent) (result : CStr) (totalMatches : ℕ) : Prop :=
  answer.status = true ∧ answer.err = 0 ∧ answer.contentList = some result ∧
    answer.totalCount.toInt = totalMatches

/-- The start indices a client asks for that pages by `maxEntries` until the
next one reaches `total_count`, for at most so many pages. -/
def pagesFrom (p : Platform S) (udn path : CStr) (maxEntries : Int32) :
    ℕ → Int32 → Server S → List Int32
  | 0, _, _ => []
  | n + 1, startIndex, s =>
      match browseContentOnServer p (some udn) (some path) startIndex
          maxEntries s with
      | none => [startIndex]
      | some (answer, s') =>
          startIndex ::
            if startIndex.toInt + maxEntries.toInt < answer.totalCount.toInt then
              pagesFrom p udn path maxEntries n (startIndex + maxEntries) s'
            else []

/-- Every item of the directory is on one of the pages. -/
def FetchesAll (pages : List Int32) (maxEntries : Int32) (totalMatches : ℕ) :
    Prop :=
  ∀ i : ℕ, i < totalMatches →
    ∃ startIndex ∈ pages, startIndex.toInt ≤ i ∧
      (i : ℤ) < startIndex.toInt + maxEntries.toInt

section Paging

variable {p : Platform S} {takes : ℕ → Bool} {s : Server S}

/-- A client that is told there is nothing more asks for one page. -/
theorem pagesFrom_eq (hp : p.Documented takes) (hs : s.locked = false)
    {udn path : CStr} {ms : MediaServerCfg S} {i : ℕ}
    (hfind : gListFindCustom p (some udn) s.data = some (some (ms, i)))
    {maxEntries : Int32} (hmax : 0 < maxEntries.toInt) {result : CStr}
    {totalMatches : Option ℕ}
    (hbrowse : p.sendAction ms.browserService
      (browseAction (some path) 0 maxEntries) =
        .done (some result) totalMatches) (n : ℕ) :
    pagesFrom p udn path maxEntries (n + 1) 0 s = [0] := by
  obtain ⟨s', hanswer, -⟩ := browseContentOnServer_free hp hs hfind hbrowse
  rw [pagesFrom, hanswer]
  dsimp only
  rw [if_neg (by rw [Int32.toInt_zero]; omega)]

/-- **What becomes of the number of matches.** A page arrives as the media
server answered it exactly if that reported no matches, and a client that
pages through a directory gets all of it exactly if it fits on the first
page. -/
theorem browseContentOnServer_total_iff (hp : p.Documented takes)
    (hs : s.locked = false) {udn : CStr} {ms : MediaServerCfg S} {i : ℕ}
    (hfind : gListFindCustom p (some udn) s.data = some (some (ms, i))) :
    (∀ path startIndex maxEntries result totalMatches,
      p.sendAction ms.browserService
          (browseAction (some path) startIndex maxEntries) =
        .done (some result) (some totalMatches) →
      ∃ answer s',
        browseContentOnServer p (some udn) (some path) startIndex maxEntries
          s = some (answer, s') ∧
        (Arrives answer result totalMatches ↔ totalMatches = 0)) ∧
    (∀ path maxEntries totalMatches n, 0 < maxEntries.toInt →
      (∀ startIndex, ∃ result,
        p.sendAction ms.browserService
            (browseAction (some path) startIndex maxEntries) =
          .done (some result) (some totalMatches)) →
      (FetchesAll (pagesFrom p udn path maxEntries (n + 1) 0 s) maxEntries
          totalMatches ↔ (totalMatches : ℤ) ≤ maxEntries.toInt)) := by
  constructor
  · intro path startIndex maxEntries result totalMatches hbrowse
    obtain ⟨s', hanswer, -⟩ := browseContentOnServer_free hp hs hfind hbrowse
    refine ⟨_, s', hanswer, ?_⟩
    constructor
    · rintro ⟨-, -, -, htotal⟩
      rw [Int32.toInt_zero] at htotal
      omega
    · rintro rfl
      exact ⟨rfl, rfl, rfl, rfl⟩
  · intro path maxEntries totalMatches n hmax hbrowse
    obtain ⟨result, hfirst⟩ := hbrowse 0
    rw [pagesFrom_eq hp hs hfind hmax hfirst]
    constructor
    · intro hall
      by_contra hmore
      -- The first item of the second page is on no page.
      obtain ⟨startIndex, hmem, -, hlt⟩ :=
        hall maxEntries.toInt.toNat (by omega)
      obtain rfl := List.mem_singleton.mp hmem
      rw [Int32.toInt_zero] at hlt
      omega
    · intro hfits i hi
      refine ⟨0, List.mem_singleton.mpr rfl, ?_⟩
      rw [Int32.toInt_zero]
      omega

/-- Three items on a page that takes ten. -/
theorem browseContentOnServer_total_three :
    FetchesAll
      (pagesFrom (.plain fun (_ : Option Unit) _ =>
          .done (some (.lit "<DIDL-Lite/>")) (some 3))
        (.lit "uuid:1") (.lit "0") 10 1 0
        ⟨[⟨.lit "NAS", .lit "uuid:1", some ()⟩], []⟩) 10 3 :=
  ((browseContentOnServer_total_iff (Platform.plain_documented _) rfl rfl).2
    _ 10 3 0 (by decide) (fun _ => ⟨_, rfl⟩)).mpr (by decide)

/-- Twenty-five items on pages of ten: the client is told that there are none,
and stops after the first page. -/
theorem browseContentOnServer_total_lost :
    let p := Platform.plain fun (_ : Option Unit) _ =>
      .done (some (.lit "<DIDL-Lite/>")) (some 25)
    let s : Server Unit := ⟨[⟨.lit "NAS", .lit "uuid:1", some ()⟩], []⟩
    (browseContentOnServer p (some (.lit "uuid:1")) (some (.lit "0")) 0 10
        s).map Prod.fst =
      some ⟨true, 0, some (.lit "<DIDL-Lite/>"), 0⟩ ∧
    ¬ Arrives ⟨true, 0, some (.lit "<DIDL-Lite/>"), 0⟩ (.lit "<DIDL-Lite/>")
      25 ∧
    pagesFrom p (.lit "uuid:1") (.lit "0") 10 3 0 s = [0] ∧
    ¬ FetchesAll [0] 10 25 := by
  refine ⟨by decide +kernel, fun h => absurd h.2.2.2 (by decide),
    by decide +kernel, fun h => ?_⟩
  obtain ⟨startIndex, hmem, -, hlt⟩ := h 10 (by decide)
  obtain rfl := List.mem_singleton.mp hmem
  exact absurd hlt (by decide)

end Paging

end Xupnp.MediaBrowser
