import Xupnp.Discovery.Steps

/-!
# The scan for a device that goes away

`checkDeviceExists` walks the sorted list and stops where the serial numbers
have passed the one it looks for. On a list in order it meets the entry that
`g_list_find_custom` finds (`checkDeviceExists_found`), but it also copies a
gateway's playback URL into a buffer of 180 bytes: `checkDeviceExists_scans_iff`
says up to which length that is no more than the search.
-/

namespace Xupnp.Discovery

open Xupnp.Library Xupnp.WhiteList

section Scan

variable {sno : Option CStr} {l : List GwyDeviceData}

/-- In a list in order the scan finds what a search finds. -/
theorem checkDeviceExists_found (sno : Option CStr) {l : List GwyDeviceData}
    (hl : l.Pairwise fun a b => a.key ≤ b.key) :
    (checkDeviceExists sno l).map Prod.snd =
      match l.find? (hasSno sno) with
      | some d => if d.isgateway then copyPlayUrl d else some (some .empty)
      | none => some none := by
  induction l with
  | nil => rfl
  | cons d l ih =>
      obtain ⟨hle, hl⟩ := List.pairwise_cons.mp hl
      have hcopy : copyPlayUrl (d.strip .serialNum) = copyPlayUrl d := rfl
      have hgw : (d.strip .serialNum).isgateway = d.isgateway := rfl
      unfold checkDeviceExists
      dsimp only
      rw [hasSno_strip, hcopy, hgw]
      by_cases hd : hasSno sno d = true
      · rw [if_pos hd, List.find?_cons_of_pos hd]
        dsimp only
        split
        · simp [Function.comp_def]
        · rfl
      · rw [if_neg hd, List.find?_cons_of_neg hd]
        split
        · -- The scan stops early, and nothing behind can match.
          rename_i hpast
          have hnone : l.find? (hasSno sno) = none := by
            apply List.find?_eq_none.mpr
            intro c hc hhit
            obtain ⟨n, hn, hkey⟩ :=
              Option.map_eq_some_iff.mp (of_decide_eq_true hhit)
            have h₁ : n.strip < d.key := hpast n hn
            have h₂ := h₁.trans_le (hle c hc)
            rw [hkey] at h₂
            exact lt_irrefl _ h₂
          rw [hnone]
          rfl
        · rw [← ih hl]
          simp [Function.comp_def]

/-! ## The playback URL -/

/-- What follows the playback URL in `outPlayUrl`. -/
def liveSuffix : CStr := .lit "&live=ocap://0xffff"

/-- The longest playback URL that leaves room for the suffix. -/
def maxPlayUrl : ℕ := 160

/-- What is copied, by the length of the playback URL: from 180 bytes on
`strcpy_s` refuses it, and from 161 on the suffix does not fit behind it. -/
theorem copyPlayUrl_eq (d : GwyDeviceData) :
    copyPlayUrl d =
      if outPlayUrlSize ≤ d.playbackurl.strip.bytes.length then some none
      else if maxPlayUrl < d.playbackurl.strip.bytes.length then none
      else some (some (d.playbackurl.strip ++ liveSuffix)) := by
  have hlen : (d.playbackurl.strip ++ liveSuffix).bytes.length =
      d.playbackurl.strip.bytes.length + 19 := by
    rw [CStr.bytes_append, List.length_append]
    rfl
  have hover : outPlayUrlSize ≤ (d.playbackurl.strip ++ liveSuffix).bytes.length
      ↔ maxPlayUrl < d.playbackurl.strip.bytes.length := by
    rw [hlen, outPlayUrlSize, maxPlayUrl]
    omega
  simp only [← hover]
  rfl

/-- A playback URL that fits is copied, and none that is longer. -/
theorem copyPlayUrl_cases (d : GwyDeviceData) :
    (d.playbackurl.strip.bytes.length ≤ maxPlayUrl ∧
        copyPlayUrl d = some (some (d.playbackurl.strip ++ liveSuffix))) ∨
      (maxPlayUrl < d.playbackurl.strip.bytes.length ∧
        ∀ url, copyPlayUrl d ≠ some (some url)) := by
  have hsize : outPlayUrlSize = maxPlayUrl + 20 := rfl
  rw [copyPlayUrl_eq]
  by_cases h : d.playbackurl.strip.bytes.length ≤ maxPlayUrl
  · left
    rw [if_neg (by omega), if_neg (by omega)]
    exact ⟨h, rfl⟩
  · right
    refine ⟨by omega, fun url => ?_⟩
    split
    · exact nofun
    · rw [if_pos (by omega)]
      exact nofun

/-! ## Scan and search -/

/-- The scan returns, says `TRUE` exactly where the search finds an entry, and
then has the URL of a gateway, stripped and with the suffix, in
`outPlayUrl`. -/
def ScansRight (sno : Option CStr) (l : List GwyDeviceData) : Prop :=
  ∃ ds found, checkDeviceExists sno l = some (ds, found) ∧
    (found.isSome = true ↔ (listFindSno sno l).2.isSome = true) ∧
    ∀ url, found = some url → ∀ d, (listFindSno sno l).2 = some d →
      d.isgateway = true → url = d.playbackurl.strip ++ liveSuffix

/-- What matters of the scan is what it has found. -/
theorem scansRight_iff {found : Option (Option CStr)}
    (h : (checkDeviceExists sno l).map Prod.snd = found) :
    ScansRight sno l ↔ ∃ f, found = some f ∧
      (f.isSome = true ↔ (listFindSno sno l).2.isSome = true) ∧
      ∀ url, f = some url → ∀ d, (listFindSno sno l).2 = some d →
        d.isgateway = true → url = d.playbackurl.strip ++ liveSuffix := by
  constructor
  · rintro ⟨ds, f, hcheck, hright⟩
    refine ⟨f, ?_, hright⟩
    rw [← h, hcheck]
    rfl
  · rintro ⟨f, rfl, hright⟩
    obtain ⟨⟨ds, f'⟩, hcheck, rfl⟩ := Option.map_eq_some_iff.mp h
    exact ⟨ds, f', hcheck, hright⟩

/-- **The early exit costs nothing.** In a list in order the scan is the
search, exactly if what that finds is no gateway whose playback URL is too
long. -/
theorem checkDeviceExists_scans_iff (sno : Option CStr)
    (hl : l.Pairwise fun a b => a.key ≤ b.key) :
    ScansRight sno l ↔
      ∀ d, (listFindSno sno l).2 = some d → d.isgateway = true →
        d.playbackurl.strip.bytes.length ≤ maxPlayUrl := by
  rw [scansRight_iff (checkDeviceExists_found sno hl), listFindSno_find]
  cases hfind : l.find? (hasSno sno) with
  | none =>
      rw [Option.map_none]
      apply iff_of_true
      · exact ⟨none, rfl, Iff.rfl, fun _ h => by cases h⟩
      · intro d h
        cases h
  | some d =>
      rw [Option.map_some]
      dsimp only
      cases hgw : d.isgateway with
      | false =>
          have hno : ∀ c, some (d.strip .serialNum) = some c →
              ¬ c.isgateway = true := by
            rintro c hc
            obtain rfl := Option.some.inj hc
            exact Bool.eq_false_iff.mp hgw
          apply iff_of_true
          · exact ⟨some .empty, rfl, Iff.rfl, fun _ _ c hc hcgw =>
              absurd hcgw (hno c hc)⟩
          · exact fun c hc hcgw => absurd hcgw (hno c hc)
      | true =>
          rw [if_pos rfl]
          rcases copyPlayUrl_cases d with ⟨hfits, hcopy⟩ | ⟨hlong, hcopy⟩
          · apply iff_of_true
            · refine ⟨_, hcopy, Iff.rfl, ?_⟩
              rintro url hurl c hc -
              obtain rfl := Option.some.inj hc
              exact (Option.some.inj hurl).symm
            · rintro c hc -
              obtain rfl := Option.some.inj hc
              exact hfits
          · apply iff_of_false
            · rintro ⟨f, hf, hiff, -⟩
              obtain ⟨url, rfl⟩ := Option.isSome_iff_exists.mp (hiff.mpr rfl)
              exact hcopy url hf
            · intro h
              have hfits := h _ rfl hgw
              exact absurd hlong (Nat.not_lt.mpr hfits)

/-- A gateway with a playback URL of 13 bytes. -/
theorem checkDeviceExists_scans_short :
    ScansRight (some (.lit " A "))
      [{ initGwydata with
          serialNum := .lit "A"
          isgateway := true
          playbackurl := .lit "http://a/b\n" }] := by
  apply (checkDeviceExists_scans_iff _ (List.pairwise_singleton _ _)).mpr
  intro d hd _
  obtain rfl := Option.some.inj hd
  decide

/-- A gateway that is listed. -/
def longUrlGateway : GwyDeviceData :=
  { initGwydata with
    serialNum := .lit "A"
    isgateway := true
    playbackurl := ⟨List.replicate 180 0x61, by decide⟩ }

/-- It is found, but `strcpy_s` refuses its URL of 180 bytes. -/
theorem checkDeviceExists_long_url :
    (listFindSno (some (.lit "A")) [longUrlGateway]).2.isSome = true ∧
      (checkDeviceExists (some (.lit "A")) [longUrlGateway]).map Prod.snd =
        some none ∧
      ¬ ScansRight (some (.lit "A")) [longUrlGateway] := by
  have hscan : (checkDeviceExists (some (.lit "A")) [longUrlGateway]).map
      Prod.snd = some none := by decide +kernel
  refine ⟨by decide +kernel, hscan, ?_⟩
  rintro ⟨ds, found, hcheck, hiff, -⟩
  rw [hcheck] at hscan
  obtain rfl : found = none := Option.some.inj hscan
  have hfind : (listFindSno (some (.lit "A")) [longUrlGateway]).2.isSome =
      true := by decide +kernel
  exact absurd (hiff.mpr hfind) (by decide)

end Scan

end Xupnp.Discovery
