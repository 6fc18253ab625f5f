import Xupnp.Library.Fields
import Xupnp.Library.Tokens

/-!
# The system ids (`systemids`)

`updatesystemids` writes the four ids into one text, from the globals or from
the diagnostics file; the RUI link takes them apart again by their names
(`getUriIds`). Both copies of the code are alike. What is read is what was
written, whatever the ids and the file are (`getUriIds_updatesystemids`).
-/

namespace Xupnp.XcalDevice

open Xupnp.Library

/-- `channelmap_id`, `dac_id`, `plant_id` and `vodserver_id`, each an
`unsigned long` of at most 64 bits. -/
structure SystemIds where
  channelmapId : UInt64
  dacId : UInt64
  plantId : UInt64
  vodserverId : UInt64
deriving DecidableEq

/-- What `devConf` says of the ids. A file that is named may be unreadable. -/
structure IdConfig where
  useGliDiag : Bool
  diagFile : Option (Option CStr)
  ulongMax : UInt64

/-! ## Writing -/

/-- `%lu` -/
def ulong (n : UInt64) : CStr := .unsigned n.toNat

/-- The loop of `getidfromdiagfile`: the token behind the last one that has
the parameter in it. -/
def idFromTokens (ulongMax : UInt64) (diagparam : CStr) :
    UInt64 → List CStr → UInt64
  | diagid, [] => diagid
  | diagid, token :: tokens =>
      idFromTokens ulongMax diagparam
        (if token.strip.contains diagparam then
          match tokens with
          | next :: _ => CStr.strtoul ulongMax next
          | [] => diagid
        else diagid) tokens

/-- `getidfromdiagfile` -/
def getidfromdiagfile (ulongMax : UInt64)
    (diagparam diagfilecontents : CStr) : UInt64 :=
  idFromTokens ulongMax diagparam 0 <|
    diagfilecontents.tokens fun b => b ∈ CStr.ascii ":,\x7b\x7d"

/-- `updatesystemids`: its result, and `systemids`. -/
def updatesystemids (cfg : IdConfig) (ids : SystemIds) (systemids : CStr) :
    Bool × CStr :=
  if cfg.useGliDiag then
    (true, .lit "channelMapId:" ++ ulong ids.channelmapId
      ++ .lit ";controllerId:" ++ ulong ids.dacId
      ++ .lit ";plantId:" ++ ulong ids.plantId
      ++ .lit ";vodServerId:" ++ ulong ids.vodserverId)
  else
    match cfg.diagFile with
    | none => (false, systemids)
    | some none =>
        (false, .lit "channelMapId:0;controllerId:0;plantId:0;vodServerId:0")
    | some (some diagfile) =>
        let diagid (diagparam : String) : UInt64 :=
          getidfromdiagfile cfg.ulongMax (.lit diagparam) diagfile
        let systemids := .lit "channelMapId:"
          ++ ulong (diagid "channelMapId") ++ .lit ";"
        let systemids := systemids ++ (.lit "controllerId:"
          ++ ulong (diagid "controllerId") ++ .lit ";")
        let systemids := systemids ++ (.lit "plantId:"
          ++ ulong (diagid "plantId") ++ .lit ";")
        (true, systemids ++ (.lit "vodServerId:"
          ++ ulong (diagid "vodServerId")))

/-- The ids `updatesystemids` writes, if it writes any. -/
def encodedIds (cfg : IdConfig) (ids : SystemIds) : Option SystemIds :=
  if cfg.useGliDiag then some ids
  else
    match cfg.diagFile with
    | none => none
    | some none => some ⟨0, 0, 0, 0⟩
    | some (some diagfile) =>
        some
          { channelmapId := getidfromdiagfile cfg.ulongMax
              (.lit "channelMapId") diagfile
            dacId := getidfromdiagfile cfg.ulongMax
              (.lit "controllerId") diagfile
            plantId := getidfromdiagfile cfg.ulongMax (.lit "plantId") diagfile
            vodserverId := getidfromdiagfile cfg.ulongMax
              (.lit "vodServerId") diagfile }

/-! ## Reading -/

/-- The ids of the RUI link. -/
structure UriIds where
  channelMapId : CStr
  controllerId : CStr
  plantId : CStr
  vodServerId : CStr
deriving DecidableEq

/-- One of the four searches of `get_uri_value`: `strstr` for `pId`, and up to
the next semicolon (`strcspn`). -/
def uriId (systemids pId : CStr) : CStr :=
  match field 0x3B systemids.bytes pId.bytes with
  | some id => .ofBytes id
  | none => .lit "0"

def getUriIds (systemids : CStr) : UriIds where
  channelMapId := uriId systemids (.lit "channelMapId:")
  controllerId := uriId systemids (.lit "controllerId:")
  plantId := uriId systemids (.lit "plantId:")
  vodServerId := uriId systemids (.lit "vodServerId:")

/-- The ids as decimals, each in its field. -/
def SystemIds.rendered (ids : SystemIds) : UriIds where
  channelMapId := ulong ids.channelmapId
  controllerId := ulong ids.dacId
  plantId := ulong ids.plantId
  vodServerId := ulong ids.vodserverId

/-! ## The text as named fields -/

section Fields

variable {cfg : IdConfig} {ids : SystemIds}

def SystemIds.fields (ids : SystemIds) : List (List UInt8 × List UInt8) :=
  [(CStr.ascii "channelMapId", CStr.digits ids.channelmapId.toNat),
    (CStr.ascii "controllerId", CStr.digits ids.dacId.toNat),
    (CStr.ascii "plantId", CStr.digits ids.plantId.toNat),
    (CStr.ascii "vodServerId", CStr.digits ids.vodserverId.toNat)]

def fieldNames : List (List UInt8) :=
  [CStr.ascii "channelMapId", CStr.ascii "controllerId", CStr.ascii "plantId",
    CStr.ascii "vodServerId"]

/-- The text the ids are written as. -/
def SystemIds.text (ids : SystemIds) : List UInt8 :=
  encodeFields 0x3A 0x3B ids.fields

/-- All branches write the same text. -/
theorem updatesystemids_bytes (systemids : CStr) {e : SystemIds}
    (h : encodedIds cfg ids = some e) :
    (updatesystemids cfg ids systemids).2.bytes = e.text := by
  have hlits : (CStr.lit "channelMapId:").bytes =
        CStr.ascii "channelMapId" ++ [0x3A] ∧
      (CStr.lit ";controllerId:").bytes =
        0x3B :: (CStr.ascii "controllerId" ++ [0x3A]) ∧
      (CStr.lit ";plantId:").bytes =
        0x3B :: (CStr.ascii "plantId" ++ [0x3A]) ∧
      (CStr.lit ";vodServerId:").bytes =
        0x3B :: (CStr.ascii "vodServerId" ++ [0x3A]) := by decide
  have hlits' : (CStr.lit "controllerId:").bytes =
        CStr.ascii "controllerId" ++ [0x3A] ∧
      (CStr.lit "plantId:").bytes = CStr.ascii "plantId" ++ [0x3A] ∧
      (CStr.lit "vodServerId:").bytes = CStr.ascii "vodServerId" ++ [0x3A] ∧
      (CStr.lit ";").bytes = [0x3B] := by decide
  obtain ⟨h₁, h₂, h₃, h₄⟩ := hlits
  obtain ⟨h₅, h₆, h₇, h₈⟩ := hlits'
  unfold encodedIds at h
  unfold updatesystemids
  split at h
  · next hgli =>
      obtain rfl := Option.some.inj h
      rw [if_pos hgli]
      simp [SystemIds.text, SystemIds.fields, encodeFields, ulong, CStr.unsigned,
        h₁, h₂, h₃, h₄]
  · next hgli =>
      rw [if_neg hgli]
      split at h
      · cases h
      · obtain rfl := Option.some.inj h
        decide
      · obtain rfl := Option.some.inj h
        simp [SystemIds.text, SystemIds.fields, encodeFields, ulong, CStr.unsigned,
          h₁, h₅, h₆, h₇, h₈]

theorem digits_separator_free (n : ℕ) :
    0x3A ∉ CStr.digits n ∧ 0x3B ∉ CStr.digits n :=
  ⟨fun h => absurd (CStr.mem_digits h).2 (by decide),
    fun h => absurd (CStr.mem_digits h).2 (by decide)⟩

theorem SystemIds.mem_fields {f : List UInt8 × List UInt8}
    (h : f ∈ ids.fields) : f.1 ∈ fieldNames ∧ ∃ n, f.2 = CStr.digits n := by
  simp only [SystemIds.fields, List.mem_cons, List.not_mem_nil, or_false] at h
  rcases h with rfl | rfl | rfl | rfl
  all_goals exact ⟨by simp [fieldNames], _, rfl⟩

theorem SystemIds.separatorFree (ids : SystemIds) :
    SeparatorFree 0x3A 0x3B ids.fields := by
  have hnames : ∀ n ∈ fieldNames, 0x3A ∉ n ∧ 0x3B ∉ n := by decide
  intro f hf
  obtain ⟨hname, n, hn⟩ := SystemIds.mem_fields hf
  rw [hn]
  exact ⟨(hnames _ hname).1, (hnames _ hname).2, digits_separator_free n⟩

theorem SystemIds.namesApart (ids : SystemIds) : NamesApart ids.fields := by
  have hapart : fieldNames.Pairwise fun m n => ¬ n <:+ m := by decide
  have hnames : ids.fields.map Prod.fst = fieldNames := rfl
  rw [← hnames] at hapart
  exact List.pairwise_map.mp hapart

/-- A search for a name finds the digits that were written for it. -/
theorem uriId_text {systemids pId : CStr} (name : List UInt8) (n : UInt64)
    (htext : systemids.bytes = ids.text) (hpId : pId.bytes = name ++ [0x3A])
    (hmem : (name, CStr.digits n.toNat) ∈ ids.fields) :
    uriId systemids pId = ulong n := by
  have hfield := field_encodeFields (by decide) ids.separatorFree
    ids.namesApart hmem
  rw [uriId, htext, hpId]
  show (match field 0x3B (encodeFields 0x3A 0x3B ids.fields) (name ++ [0x3A])
    with | some id => CStr.ofBytes id | none => .lit "0") = _
  rw [hfield]
  apply CStr.ext
  show (CStr.digits n.toNat).filter (· ≠ 0) = CStr.digits n.toNat
  apply List.filter_eq_self.mpr
  intro b hb
  apply decide_eq_true
  rintro rfl
  exact absurd (CStr.mem_digits hb).1 (by decide)

theorem getUriIds_text {systemids : CStr} (h : systemids.bytes = ids.text) :
    getUriIds systemids = ids.rendered := by
  rw [getUriIds, SystemIds.rendered,
    uriId_text (CStr.ascii "channelMapId") ids.channelmapId h (by decide)
      (by simp [SystemIds.fields]),
    uriId_text (CStr.ascii "controllerId") ids.dacId h (by decide)
      (by simp [SystemIds.fields]),
    uriId_text (CStr.ascii "plantId") ids.plantId h (by decide)
      (by simp [SystemIds.fields]),
    uriId_text (CStr.ascii "vodServerId") ids.vodserverId h (by decide)
      (by simp [SystemIds.fields])]

end Fields

/-- **Round trip.** Where `updatesystemids` writes the ids, the RUI link reads
their decimals, each in its own field; with neither source it writes none. -/
theorem getUriIds_updatesystemids (cfg : IdConfig) (ids : SystemIds)
    (systemids : CStr) :
    match encodedIds cfg ids with
    | some e => getUriIds (updatesystemids cfg ids systemids).2 = e.rendered
    | none => updatesystemids cfg ids systemids = (false, systemids) := by
  split
  · next e h => exact getUriIds_text (updatesystemids_bytes systemids h)
  · next h =>
      unfold encodedIds at h
      unfold updatesystemids
      split at h
      · cases h
      · next hgli =>
          rw [if_neg hgli]
          cases hfile : cfg.diagFile with
          | none => rfl
          | some file =>
              rw [hfile] at h
              cases file <;> cases h

/-- A diagnostics file. -/
example : encodedIds
    ⟨false, some (some (.lit "\x7bplantId: 12a\x7d")), 0xFFFFFFFF⟩
    ⟨1, 2, 3, 4⟩ = some ⟨0, 0, 12, 0⟩ := by decide +kernel

end Xupnp.XcalDevice
