import Xupnp.Discovery.Document
import Xupnp.Discovery.Ownership

/-!
# The URL of a gateway that goes away

Before a gateway is deleted its playback URL is copied into a buffer of 180
bytes and a suffix of 19 bytes is put behind it. The copy is checked against
the size of the buffer, the suffix is not: `outPlayUrl_fits_iff` says which
URLs stay within the buffer. One that is too long keeps its device listed, or
brings the daemon down: `unavailable_outcome_iff` says when a device that goes
away is deleted or has answered.
-/

namespace Xupnp.Discovery

open Xupnp.Library

/-! ## The buffer -/

/-- What is written to `outPlayUrl` for a gateway, were the buffer long
enough. -/
def buildPlayUrl (lib : SafeLib) (d : GwyDeviceData) : CStr :=
  match strcpyS lib outPlayUrlSize d.playbackurl.strip with
  | (outPlayUrl, true) => outPlayUrl ++ liveSuffix
  | (outPlayUrl, false) => outPlayUrl

/-- The string in `outPlayUrl` after `checkDeviceExists`, were the buffer long
enough. -/
def outPlayUrl (lib : SafeLib) (sno : Option CStr) (buffer : CStr) :
    List GwyDeviceData → CStr
  | [] => buffer
  | d :: ds =>
      if hasSno sno d then
        if d.isgateway then buildPlayUrl lib d else buffer
      else if ∀ n ∈ sno, n.strip < d.key then buffer
      else outPlayUrl lib sno buffer ds

/-- The scan meets this record: it has the serial number, and those in front of
it have smaller ones. -/
def Meets (sno : Option CStr) (l : List GwyDeviceData) (d : GwyDeviceData) :
    Prop :=
  ∃ pre post, l = pre ++ d :: post ∧ sno.map CStr.strip = some d.key ∧
    ∀ c ∈ pre, c.key < d.key

section Buffer

variable {lib : SafeLib} {sno : Option CStr} {d e : GwyDeviceData}
  {l : List GwyDeviceData}

theorem meets_nil : ¬ Meets sno [] d := by
  rintro ⟨pre, post, h, -⟩
  cases pre <;> cases h

theorem meets_cons : Meets sno (e :: l) d ↔
    (e = d ∧ sno.map CStr.strip = some d.key) ∨ (e.key < d.key ∧ Meets sno l d) := by
  constructor
  · rintro ⟨pre, post, heq, hkey, hpre⟩
    cases pre with
    | nil =>
        obtain ⟨rfl, -⟩ := List.cons.inj heq
        exact Or.inl ⟨rfl, hkey⟩
    | cons c pre =>
        obtain ⟨rfl, rfl⟩ := List.cons.inj heq
        exact Or.inr ⟨hpre _ List.mem_cons_self, pre, post, rfl, hkey,
          fun c' hc' => hpre c' (List.mem_cons_of_mem _ hc')⟩
  · rintro (⟨rfl, hkey⟩ | ⟨hlt, pre, post, rfl, hkey, hpre⟩)
    · exact ⟨[], l, rfl, hkey, fun c hc => by cases hc⟩
    · refine ⟨e :: pre, post, rfl, hkey, fun c hc => ?_⟩
      rcases List.mem_cons.mp hc with rfl | hc
      · exact hlt
      · exact hpre c hc

theorem Meets.key (h : Meets sno l d) : sno.map CStr.strip = some d.key := by
  obtain ⟨_, _, _, hkey, _⟩ := h
  exact hkey

/-- The string for one gateway fits, unless its URL lets itself be copied but
leaves no room for the suffix. -/
theorem buildPlayUrl_fits_iff (lib : SafeLib) (d : GwyDeviceData) :
    (buildPlayUrl lib d).bytes.length + 1 ≤ outPlayUrlSize ↔
      d.playbackurl.strip.bytes.length ≤ maxPlayUrl ∨
        lib = .safec ∧ outPlayUrlSize ≤ d.playbackurl.strip.bytes.length := by
  have hsuffix : liveSuffix.bytes.length = 19 := rfl
  have hsize : outPlayUrlSize = 180 := rfl
  have hmax : maxPlayUrl = 160 := rfl
  have hlong : (d.playbackurl.strip ++ liveSuffix).bytes.length =
      d.playbackurl.strip.bytes.length + 19 := by
    rw [CStr.bytes_append, List.length_append, hsuffix]
  unfold buildPlayUrl strcpyS
  cases lib with
  | safec =>
      dsimp only
      split
      · rename_i hcopy
        split at hcopy
        · obtain ⟨rfl, -⟩ := Prod.mk.inj hcopy
          rw [hlong, hmax]
          simp only [true_and]
          omega
        · cases (Prod.mk.inj hcopy).2
      · rename_i hcopy
        split at hcopy
        · cases (Prod.mk.inj hcopy).2
        · obtain ⟨rfl, -⟩ := Prod.mk.inj hcopy
          refine iff_of_true (by decide) (Or.inr ⟨rfl, ?_⟩)
          omega
  | dummy =>
      dsimp only
      rw [hlong, hmax]
      simp only [reduceCtorEq, false_and, or_false]
      omega

/-- **When the URL stays within the buffer.** For every list the string, its
suffix and the NUL take at most 180 bytes, unless the record the scan meets is
a gateway whose stripped playback URL has 161 to 179 bytes; with a plain
`strcpy`, unless it has more than 160. -/
theorem outPlayUrl_fits_iff (lib : SafeLib) (sno : Option CStr)
    (l : List GwyDeviceData) :
    (outPlayUrl lib sno .empty l).bytes.length + 1 ≤ outPlayUrlSize ↔
      ∀ d, Meets sno l d → d.isgateway = true →
        d.playbackurl.strip.bytes.length ≤ maxPlayUrl ∨
          lib = .safec ∧ outPlayUrlSize ≤ d.playbackurl.strip.bytes.length := by
  have hempty : CStr.empty.bytes.length + 1 ≤ outPlayUrlSize := by decide
  induction l with
  | nil => exact iff_of_true hempty fun d hd => absurd hd meets_nil
  | cons e l ih =>
      rw [outPlayUrl]
      by_cases he : hasSno sno e = true
      · have hkey : sno.map CStr.strip = some e.key := of_decide_eq_true he
        -- Nothing behind the record can be met.
        have hmeets : ∀ d, Meets sno (e :: l) d ↔ e = d := by
          intro d
          rw [meets_cons]
          constructor
          · rintro (⟨rfl, -⟩ | ⟨hlt, hd⟩)
            · rfl
            · rw [← Option.some.inj (hkey.symm.trans hd.key)] at hlt
              exact absurd hlt (lt_irrefl _)
          · rintro rfl
            exact Or.inl ⟨rfl, hkey⟩
        rw [if_pos he]
        simp only [hmeets, forall_eq']
        by_cases hgw : e.isgateway = true
        · rw [if_pos hgw, buildPlayUrl_fits_iff]
          simp [hgw]
        · rw [if_neg hgw]
          exact iff_of_true hempty fun h => absurd h hgw
      · have hnot : ¬ sno.map CStr.strip = some e.key := fun h =>
          he (decide_eq_true h)
        rw [if_neg he]
        split
        · rename_i hpast
          refine iff_of_true hempty fun d hd => ?_
          rcases meets_cons.mp hd with ⟨rfl, hkey⟩ | ⟨hlt, hd⟩
          · exact absurd hkey hnot
          · obtain ⟨n, rfl, hn⟩ := Option.map_eq_some_iff.mp hd.key
            have hbefore := hpast n rfl
            rw [hn] at hbefore
            exact absurd hbefore hlt.asymm
        · rename_i hgoes
          refine ih.trans (forall_congr' fun d => imp_congr_left ?_)
          rw [meets_cons]
          constructor
          · intro hd
            obtain ⟨n, rfl, hn⟩ := Option.map_eq_some_iff.mp hd.key
            have hle : e.key ≤ n.strip := by simpa using hgoes
            have hne : e.key ≠ n.strip := fun h => hnot (by rw [h]; rfl)
            rw [hn] at hle hne
            exact Or.inr ⟨lt_of_le_of_ne hle hne, hd⟩
          · rintro (⟨rfl, hkey⟩ | ⟨-, hd⟩)
            · exact absurd hkey hnot
            · exact hd

/-- A URL of 161 bytes: one byte is written behind the buffer. -/
theorem outPlayUrl_fits_fails :
    ¬ (outPlayUrl .safec (some (.lit "A")) .empty
        [{ initGwydata with
            serialNum := .lit "A"
            isgateway := true
            playbackurl := ⟨List.replicate 161 0x61, by decide⟩ }]).bytes.length
          + 1 ≤ outPlayUrlSize := by
  decide +kernel

/-- `copyPlayUrl` fails where the string does not fit, and gives it where it
does. -/
theorem copyPlayUrl_build (d : GwyDeviceData) :
    (copyPlayUrl d = none ↔
        outPlayUrlSize < (buildPlayUrl .safec d).bytes.length + 1) ∧
      ∀ url, copyPlayUrl d = some (some url) → url = buildPlayUrl .safec d := by
  have hlong : (d.playbackurl.strip ++ liveSuffix).bytes.length =
      d.playbackurl.strip.bytes.length + 19 := by
    rw [CStr.bytes_append, List.length_append]
    rfl
  have hcopy : copyPlayUrl d =
      if outPlayUrlSize ≤ d.playbackurl.strip.bytes.length then some none
      else if outPlayUrlSize ≤ (d.playbackurl.strip ++ liveSuffix).bytes.length
        then none
      else some (some (d.playbackurl.strip ++ liveSuffix)) := rfl
  have hsize : outPlayUrlSize = 180 := rfl
  rw [hcopy]
  unfold buildPlayUrl strcpyS
  by_cases hrefused : outPlayUrlSize ≤ d.playbackurl.strip.bytes.length
  · rw [if_pos hrefused, if_neg (Nat.not_lt.mpr hrefused)]
    refine ⟨iff_of_false (by simp) ?_, fun url h => by cases h⟩
    show ¬ 180 < 0 + 1
    omega
  · rw [if_neg hrefused, if_pos (Nat.not_le.mp hrefused)]
    dsimp only
    by_cases hover : outPlayUrlSize ≤
        (d.playbackurl.strip ++ liveSuffix).bytes.length
    · rw [if_pos hover]
      exact ⟨iff_of_true rfl (Nat.lt_succ_of_le hover), fun url h => by cases h⟩
    · rw [if_neg hover]
      refine ⟨iff_of_false (by simp) (by omega), fun url h => ?_⟩
      exact (Option.some.inj (Option.some.inj h)).symm

/-- With safeclib the scan is the one of `checkDeviceExists`: it has no result
where the string does not fit, and the string is in the buffer where it
does. -/
theorem checkDeviceExists_outPlayUrl (sno : Option CStr)
    (l : List GwyDeviceData) :
    (checkDeviceExists sno l = none ↔
        outPlayUrlSize < (outPlayUrl .safec sno .empty l).bytes.length + 1) ∧
      ∀ ds url, checkDeviceExists sno l = some (ds, some url) →
        url = outPlayUrl .safec sno .empty l := by
  have hempty : ¬ outPlayUrlSize < CStr.empty.bytes.length + 1 := by decide
  induction l with
  | nil =>
      refine ⟨iff_of_false (by simp [checkDeviceExists]) hempty, ?_⟩
      intro ds url h
      cases h
  | cons e l ih =>
      have hcopy : copyPlayUrl (e.strip .serialNum) = copyPlayUrl e := rfl
      have hgw : (e.strip .serialNum).isgateway = e.isgateway := rfl
      have hkey : (e.strip .serialNum).serialNum = e.key := rfl
      rw [checkDeviceExists, outPlayUrl]
      dsimp only
      rw [hasSno_strip, hcopy, hgw, hkey]
      split
      · split
        · obtain ⟨hnone, hsome⟩ := copyPlayUrl_build e
          refine ⟨by rw [Option.map_eq_none_iff, hnone], fun ds url h => ?_⟩
          obtain ⟨url', hurl, hpair⟩ := Option.map_eq_some_iff.mp h
          obtain ⟨-, rfl⟩ := Prod.mk.inj hpair
          exact hsome url hurl
        · refine ⟨iff_of_false (by simp) hempty, fun ds url h => ?_⟩
          exact (Option.some.inj (Prod.mk.inj (Option.some.inj h)).2).symm
      · split
        · refine ⟨iff_of_false (by simp) hempty, fun ds url h => ?_⟩
          cases (Prod.mk.inj (Option.some.inj h)).2
        · refine ⟨by rw [Option.map_eq_none_iff, ih.1], fun ds url h => ?_⟩
          obtain ⟨⟨ds', found⟩, hrest, hpair⟩ := Option.map_eq_some_iff.mp h
          obtain ⟨-, rfl⟩ := Prod.mk.inj hpair
          exact ih.2 ds' url hrest

end Buffer

/-! ## The device that goes away -/

/-- The URL the callback sends a HEAD request to, if it sends one. -/
def probedUrl (sno : Option CStr) (s : XState) : Option CStr :=
  match checkDeviceExists sno s.xdevlist with
  | some (_, some gwyPlayUrl) =>
      if gwyPlayUrl = .empty then none else some gwyPlayUrl
  | _ => none

/-- The device of a serial number is no longer listed, and a list without it
has been published. -/
def GonePublished (cfg : Settings) (io : Io) (n : CStr) (s' : XState) : Prop :=
  ¬ Listed s' n.strip ∧
    ∃ s₁, s' = sendDiscoveryResult cfg io s₁ ∧ ¬ Listed s₁ n.strip ∧
      s'.outputcontents = discoveryDocument s₁.xdevlist

/-- It is a gateway, and its playback URL has answered a HEAD request. -/
def Answered (io : Io) (n : CStr) (s : XState) (d : GwyDeviceData) : Prop :=
  d.isgateway = true ∧
    probedUrl (some n) s = some (d.playbackurl.strip ++ liveSuffix) ∧
    io.soupStatusFromUrl (d.playbackurl.strip ++ liveSuffix) = true

section Unavailable

variable {cfg : Settings} {io : Io} {s : XState} {n : CStr} {d : GwyDeviceData}

/-- What the scan for a listed device gives. -/
theorem checkDeviceExists_listed
    (hs : s.xdevlist.Pairwise fun a b => a.key < b.key) (hd : d ∈ s.xdevlist)
    (hk : d.key = n.strip) :
    (checkDeviceExists (some n) s.xdevlist).map Prod.snd =
      if d.isgateway then copyPlayUrl d else some (some .empty) := by
  rw [checkDeviceExists_found (some n) (hs.imp le_of_lt), find_hasSno hs hd hk]

/-- A device that is deleted is gone, and the list published without it. -/
theorem gonePublished_delete {s₀ : XState}
    (hs : s₀.xdevlist.Pairwise fun a b => a.key < b.key)
    (hl : Listed s₀ n.strip) :
    GonePublished cfg io n (deleteAndPublish cfg io (some n) s₀) := by
  obtain ⟨c, hc, hkey⟩ := List.mem_map.mp hl
  have hfound : s₀.xdevlist.find? (hasSno (some n)) ≠ none := by
    rw [find_hasSno hs hc hkey]
    exact Option.some_ne_none c
  have hgone : ¬ Listed (deleteGwyitem cfg io (some n) s₀).1 n.strip := by
    rw [listed_deleteGwyitem cfg io hs]
    exact fun h => h.2 rfl
  rw [deleteAndPublish_listed cfg io hfound]
  refine ⟨fun hlisted => hgone ?_, _, rfl, hgone, ?_⟩
  · exact (listed_of_normal (sendDiscoveryResult_normal cfg io _)).mp hlisted
  · exact sendDiscoveryResult_outputcontents cfg io _

/-- The callback, by what the scan gives. -/
theorem deviceProxyUnavailableCb_scan (hown : n ≠ s.ownSerialNo.strip) :
    deviceProxyUnavailableCb cfg io (some n) s =
      match checkDeviceExists (some n) s.xdevlist with
      | none => none
      | some (ds, none) =>
          some { s with ownSerialNo := s.ownSerialNo.strip, xdevlist := ds }
      | some (ds, some gwyPlayUrl) =>
          if gwyPlayUrl ≠ .empty ∧ io.soupStatusFromUrl gwyPlayUrl then
            some { s with ownSerialNo := s.ownSerialNo.strip, xdevlist := ds }
          else
            some (deleteAndPublish cfg io (some n)
              { s with
                ownSerialNo := s.ownSerialNo.strip
                xdevlist := ds }) := by
  unfold deviceProxyUnavailableCb
  dsimp only
  rewrite [if_neg (by simpa using hown)]
  rfl

/-! ### What the scan has found -/

/-- The state after the scan. -/
abbrev scanned (s : XState) (ds : List GwyDeviceData) : XState :=
  { s with ownSerialNo := s.ownSerialNo.strip, xdevlist := ds }

section Scanned

variable {ds : List GwyDeviceData}

theorem listed_scanned {found : Option CStr}
    (hcheck : checkDeviceExists (some n) s.xdevlist = some (ds, found))
    (hl : Listed s n.strip) : Listed (scanned s ds) n.strip :=
  (listed_of_normal (checkDeviceExists_list hcheck)).mpr hl

theorem gonePublished_scanned {found : Option CStr}
    (hs : s.xdevlist.Pairwise fun a b => a.key < b.key)
    (hcheck : checkDeviceExists (some n) s.xdevlist = some (ds, found))
    (hl : Listed s n.strip) :
    GonePublished cfg io n
      (deleteAndPublish cfg io (some n) (scanned s ds)) :=
  gonePublished_delete
    (Lists.sorted_of_map_eq hs (checkDeviceExists_list hcheck))
    (listed_scanned hcheck hl)

/-- A gateway whose URL fits is probed, and deleted unless it answers. -/
theorem outcome_of_fits (hs : s.xdevlist.Pairwise fun a b => a.key < b.key)
    (hl : Listed s n.strip) (hown : n ≠ s.ownSerialNo.strip)
    (hgw : d.isgateway = true)
    (hcopy : copyPlayUrl d =
      some (some (d.playbackurl.strip ++ liveSuffix)))
    (hscan : (checkDeviceExists (some n) s.xdevlist).map Prod.snd =
      copyPlayUrl d) :
    ∃ s', deviceProxyUnavailableCb cfg io (some n) s = some s' ∧
      (GonePublished cfg io n s' ∨ Answered io n s d) := by
  rw [hcopy] at hscan
  obtain ⟨⟨ds, found⟩, hcheck, rfl⟩ := Option.map_eq_some_iff.mp hscan
  have hne := copyPlayUrl_ne_empty hcopy
  have hprobed : probedUrl (some n) s =
      some (d.playbackurl.strip ++ liveSuffix) := by
    rw [probedUrl, hcheck]
    exact if_neg hne
  rw [deviceProxyUnavailableCb_scan hown, hcheck]
  dsimp only
  by_cases hup : io.soupStatusFromUrl (d.playbackurl.strip ++ liveSuffix) = true
  · rw [if_pos ⟨hne, hup⟩]
    exact ⟨_, rfl, Or.inr ⟨hgw, hprobed, hup⟩⟩
  · rw [if_neg fun h => hup h.2]
    exact ⟨_, rfl, Or.inl (gonePublished_scanned hs hcheck hl)⟩

/-- A gateway whose URL does not fit stays, unasked, or the daemon does not get
that far. -/
theorem no_outcome_of_long (hl : Listed s n.strip)
    (hown : n ≠ s.ownSerialNo.strip)
    (hcopy : ∀ url, copyPlayUrl d ≠ some (some url))
    (hscan : (checkDeviceExists (some n) s.xdevlist).map Prod.snd =
      copyPlayUrl d) :
    ¬ ∃ s', deviceProxyUnavailableCb cfg io (some n) s = some s' ∧
      (GonePublished cfg io n s' ∨ Answered io n s d) := by
  rintro ⟨s', h, houtcome⟩
  rw [deviceProxyUnavailableCb_scan hown] at h
  cases hcheck : checkDeviceExists (some n) s.xdevlist with
  | none =>
      rw [hcheck] at h
      cases h
  | some r =>
      obtain ⟨ds, found⟩ := r
      rw [hcheck] at hscan h
      have hfound : copyPlayUrl d = some found := hscan.symm
      cases found with
      | some url => exact hcopy url hfound
      | none =>
          obtain rfl := Option.some.inj h
          rcases houtcome with ⟨hgone, -⟩ | ⟨-, hprobed, -⟩
          · exact hgone (listed_scanned hcheck hl)
          · rw [probedUrl, hcheck] at hprobed
            cases hprobed

/-- A device that is no gateway is deleted. -/
theorem outcome_of_client (hs : s.xdevlist.Pairwise fun a b => a.key < b.key)
    (hl : Listed s n.strip) (hown : n ≠ s.ownSerialNo.strip)
    (hscan : (checkDeviceExists (some n) s.xdevlist).map Prod.snd =
      some (some .empty)) :
    ∃ s', deviceProxyUnavailableCb cfg io (some n) s = some s' ∧
      (GonePublished cfg io n s' ∨ Answered io n s d) := by
  obtain ⟨⟨ds, found⟩, hcheck, rfl⟩ := Option.map_eq_some_iff.mp hscan
  rw [deviceProxyUnavailableCb_scan hown, hcheck]
  dsimp only
  rw [if_neg fun h => h.1 rfl]
  exact ⟨_, rfl, Or.inl (gonePublished_scanned hs hcheck hl)⟩

end Scanned

/-- **What becomes of a device that goes away.** In every state a run can reach,
a listed device other than the daemon's own is gone and published as gone, or
it is a gateway whose playback URL has answered, exactly if it is no gateway
with a playback URL of more than 160 bytes. -/
theorem unavailable_outcome_iff (cfg : Settings) (io : Io) {cp : ControlPoint}
    (hcp : Probes cp) {m : Option CStr} {es : List Event}
    (hrun : runFrom (step cfg) (startState m) es = some s)
    (hd : d ∈ s.xdevlist) (hk : d.key = n.strip)
    (hown : n ≠ s.ownSerialNo.strip) :
    (∃ s', step cfg s ⟨io, .unavailable cp (some n)⟩ = some s' ∧
        (GonePublished cfg io n s' ∨ Answered io n s d)) ↔
      (d.isgateway = true → d.playbackurl.strip.bytes.length ≤ maxPlayUrl) := by
  have hs := run_sorted hrun
  have hstep : step cfg s ⟨io, .unavailable cp (some n)⟩ =
      deviceProxyUnavailableCb cfg io (some n) s := by
    rcases hcp with rfl | rfl <;> rfl
  have hscan := checkDeviceExists_listed hs hd hk
  have hl : Listed s n.strip := hk ▸ List.mem_map_of_mem hd
  rw [hstep]
  by_cases hgw : d.isgateway = true
  · rw [if_pos hgw] at hscan
    rcases copyPlayUrl_cases d with ⟨hfits, hcopy⟩ | ⟨hlong, hcopy⟩
    · exact iff_of_true (outcome_of_fits hs hl hown hgw hcopy hscan)
        fun _ => hfits
    · exact iff_of_false (no_outcome_of_long hl hown hcopy hscan)
        fun h => absurd (h hgw) (Nat.not_le.mpr hlong)
  · rw [if_neg hgw] at hscan
    exact iff_of_true (outcome_of_client hs hl hown hscan)
      fun h => absurd h hgw

/-- The device goes that has been announced as `" A"`. -/
theorem unavailable_outcome_short :
    ∃ s d, runFrom (step broadbandSettings) (startState none)
        [⟨quietIo, .available .basicDevice (echoDevice " A" "x")⟩] = some s ∧
      d ∈ s.xdevlist ∧
      ((∃ s', step broadbandSettings s
            ⟨quietIo, .unavailable .basicDevice (some (.lit "A"))⟩ = some s' ∧
          (GonePublished broadbandSettings quietIo (.lit "A") s' ∨
            Answered quietIo (.lit "A") s d)) ↔
        (d.isgateway = true →
          d.playbackurl.strip.bytes.length ≤ maxPlayUrl)) := by
  have hlist : (runFrom (step broadbandSettings) (startState none)
      [⟨quietIo, .available .basicDevice (echoDevice " A" "x")⟩]).map
        (fun s => (s.xdevlist.map GwyDeviceData.key, s.ownSerialNo.strip)) =
      some ([.lit "A"], .empty) := by decide +kernel
  obtain ⟨s, hs, hpair⟩ := Option.map_eq_some_iff.mp hlist
  obtain ⟨hkeys, hown⟩ := Prod.mk.inj hpair
  have hmem : CStr.lit "A" ∈ s.xdevlist.map GwyDeviceData.key := by
    rw [hkeys]
    exact List.mem_cons_self
  obtain ⟨d, hd, hk⟩ := List.mem_map.mp hmem
  refine ⟨s, d, hs, hd, unavailable_outcome_iff broadbandSettings quietIo
    (Or.inl rfl) hs hd ?_ ?_⟩
  · rw [hk]
    decide
  · rw [hown]
    decide

/-- A gateway with a playback URL of 180 bytes. -/
def longUrlProxy : DeviceProxy :=
  { echoDevice "A" "x" with
    service := fun _ =>
      { echoService (.lit "x") with
        string := fun a =>
          if a = .getPlaybackUrl then
            some (.ofBytes (List.replicate 180 0x61))
          else some (.lit "x") } }

/-- It goes, and stays listed without having been asked. -/
theorem unavailable_outcome_fails :
    ∃ s d, runFrom (step broadbandSettings) (startState none)
        [⟨quietIo, .available .basicDevice longUrlProxy⟩] = some s ∧
      d ∈ s.xdevlist ∧ d.key = CStr.lit "A" ∧
      CStr.lit "A" ≠ s.ownSerialNo.strip ∧
      ¬ ∃ s', step broadbandSettings s
            ⟨quietIo, .unavailable .basicDevice (some (.lit "A"))⟩ = some s' ∧
          (GonePublished broadbandSettings quietIo (.lit "A") s' ∨
            Answered quietIo (.lit "A") s d) := by
  have hlist : (runFrom (step broadbandSettings) (startState none)
      [⟨quietIo, .available .basicDevice longUrlProxy⟩]).map
        (fun s => (s.xdevlist.map GwyDeviceData.key, s.ownSerialNo.strip,
          (step broadbandSettings s
            ⟨quietIo, .unavailable .basicDevice (some (.lit "A"))⟩).map
            (fun s' => s'.xdevlist.map GwyDeviceData.key),
          probedUrl (some (.lit "A")) s)) =
      some ([.lit "A"], .empty, some [.lit "A"], none) := by decide +kernel
  obtain ⟨s, hs, hpair⟩ := Option.map_eq_some_iff.mp hlist
  obtain ⟨hkeys, hpair⟩ := Prod.mk.inj hpair
  obtain ⟨hown, hpair⟩ := Prod.mk.inj hpair
  obtain ⟨hafter, hprobed⟩ := Prod.mk.inj hpair
  have hmem : CStr.lit "A" ∈ s.xdevlist.map GwyDeviceData.key := by
    rw [hkeys]
    exact List.mem_cons_self
  obtain ⟨d, hd, hk⟩ := List.mem_map.mp hmem
  refine ⟨s, d, hs, hd, hk, ?_, ?_⟩
  · rw [hown]
    decide
  · rintro ⟨s', h, ⟨hgone, -⟩ | ⟨-, hurl, -⟩⟩
    · rw [h] at hafter
      have hstays : s'.xdevlist.map GwyDeviceData.key = [.lit "A"] :=
        Option.some.inj hafter
      apply hgone
      rw [Listed, hstays]
      decide
    · rw [hprobed] at hurl
      cases hurl

end Unavailable

end Xupnp.Discovery
