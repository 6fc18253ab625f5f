import Xupnp.Idm.Steps

/-!
# What the callback is told of a device

A device is reported twice: when it is listed, with what it answered copied by
`strncpy` into a zeroed `device_info_t`, and when it is taken out, with the
same strings copied by `strcpy` into one that is not initialised. The two agree
exactly if each of the strings is shorter than its member
(`removed_info_iff`). A request that failed counts as an empty string: its
member stays zero, and so does the string of the record.
-/

namespace Xupnp.Idm

open Xupnp.Library Xupnp.XcalDevice

/-! ## Members -/

namespace DeviceInfo

/-- The bytes of a member. -/
def field (di : DeviceInfo) (f : InfoField) : List UInt8 :=
  (di.1.drop f.offset).take f.size

/-- The string in a member. -/
def string (di : DeviceInfo) (f : InfoField) : List UInt8 :=
  (di.field f).takeWhile (· ≠ 0)

/-- The member holds a NUL. -/
def Terminated (di : DeviceInfo) (f : InfoField) : Prop := 0 ∈ di.field f

instance (di : DeviceInfo) (f : InfoField) : Decidable (di.Terminated f) :=
  inferInstanceAs (Decidable (_ ∈ _))

end DeviceInfo

section Write

variable {x l : List UInt8} {off o n : ℕ}

/-- A write changes nothing beside it. -/
theorem slice_frame (hfit : off + l.length ≤ x.length)
    (hout : o + n ≤ off ∨ off + l.length ≤ o) :
    ((x.take off ++ l ++ x.drop (off + l.length)).drop o).take n =
      (x.drop o).take n := by
  have htake : (x.take off).length = off := by
    rw [List.length_take]
    omega
  rcases hout with hbefore | hbehind
  · rw [List.append_assoc, List.drop_append_of_le_length (by omega),
      List.take_append_of_le_length (by rw [List.length_drop]; omega),
      List.drop_take, List.take_take, Nat.min_eq_left (by omega)]
  · rw [List.drop_append, List.drop_eq_nil_of_le
      (by rw [List.length_append]; omega), List.nil_append, List.drop_drop,
      List.length_append, htake]
    congr 2
    omega

/-- A write at the front of a member. -/
theorem slice_write (hfit : off + l.length ≤ x.length) (hl : l.length ≤ n) :
    ((x.take off ++ l ++ x.drop (off + l.length)).drop off).take n =
      l ++ ((x.drop off).take n).drop l.length := by
  have htake : (x.take off).length = off := by
    rw [List.length_take]
    omega
  rw [List.append_assoc, List.drop_append_of_le_length (by omega),
    List.drop_eq_nil_of_le (by omega), List.nil_append, List.take_append,
    List.take_of_length_le hl, List.drop_take, List.drop_drop]

end Write

namespace InfoField

theorem offset_add_size (f : InfoField) : f.offset + f.size ≤ deviceInfoSize := by
  cases f <;> decide

/-- The members lie one behind the other. -/
theorem apart {f g : InfoField} (h : g ≠ f) :
    g.offset + g.size ≤ f.offset ∨ f.offset + f.size ≤ g.offset := by
  cases f <;> cases g <;> first | exact absurd rfl h | decide

end InfoField

namespace DeviceInfo

variable {di di' : DeviceInfo} {f g : InfoField} {s : CStr}

theorem length_field (di : DeviceInfo) (f : InfoField) :
    (di.field f).length = f.size := by
  have := f.offset_add_size
  have := di.2
  rw [field, List.length_take, List.length_drop]
  omega

/-- The members are all there is. -/
theorem eq_of_fields (h : ∀ f, di.field f = di'.field f) : di = di' := by
  have hsplit : ∀ di : DeviceInfo,
      di.1 = di.field .ipv4 ++ (di.field .ipv6 ++ di.field .mac) := by
    intro di
    have hmac : (di.1.drop 144).take 18 = di.1.drop 144 :=
      List.take_of_length_le (by rw [List.length_drop, di.2]; decide)
    show di.1 = (di.1.drop 0).take 16 ++
      ((di.1.drop 16).take 128 ++ (di.1.drop 144).take 18)
    rw [hmac, List.drop_zero]
    have hdrop : di.1.drop 144 = (di.1.drop 16).drop 128 := by
      rw [List.drop_drop]
    rw [hdrop, List.take_append_drop, List.take_append_drop]
  apply Subtype.ext
  rw [hsplit di, hsplit di', h, h, h]

theorem write_of_fits {off : ℕ} {l : List UInt8}
    (hfit : off + l.length ≤ deviceInfoSize) :
    ∃ di', di.write off l = some di' ∧
      di'.1 = di.1.take off ++ l ++ di.1.drop (off + l.length) := by
  unfold write
  rw [dif_pos hfit]
  exact ⟨_, rfl, rfl⟩

/-- What a write that stays in its member leaves. -/
theorem write_field (di : DeviceInfo) {l : List UInt8} (hl : l.length ≤ f.size) :
    ∃ di', di.write f.offset l = some di' ∧
      di'.field f = l ++ (di.field f).drop l.length ∧
      ∀ g ≠ f, di'.field g = di.field g := by
  have hsize := f.offset_add_size
  have hfit : f.offset + l.length ≤ di.1.length := by
    rw [di.2]
    omega
  obtain ⟨di', hdi', heq⟩ : ∃ di', di.write f.offset l = some di' ∧ _ :=
    write_of_fits (by omega)
  refine ⟨di', hdi', ?_, fun g hg => ?_⟩
  · rw [field, heq]
    exact slice_write hfit hl
  · rw [field, heq]
    apply slice_frame hfit
    rcases InfoField.apart hg with h | h
    · exact .inl h
    · exact .inr (by omega)

/-- `strncpy` fills its member. -/
theorem strncpyField_field (di : DeviceInfo) (f : InfoField) (s : CStr) :
    (di.strncpyField f s).field f = CStr.padTo f.size s.bytes ∧
      ∀ g ≠ f, (di.strncpyField f s).field g = di.field g := by
  have hlen := CStr.length_padTo f.size s.bytes
  obtain ⟨di', hdi', hfield, hframe⟩ := di.write_field hlen.le
  rw [strncpyField, hdi']
  refine ⟨?_, hframe⟩
  show di'.field f = _
  rw [hfield, hlen, List.drop_eq_nil_of_le (length_field di f).le,
    List.append_nil]

/-- `strcpy` of a string that is shorter than its member. -/
theorem strcpyField_field (di : DeviceInfo) (h : s.bytes.length < f.size) :
    ∃ di', di.strcpyField f s = some di' ∧
      di'.field f =
        s.bytes ++ 0 :: (di.field f).drop (s.bytes.length + 1) ∧
      ∀ g ≠ f, di'.field g = di.field g := by
  have hlen : (s.bytes ++ [0]).length ≤ f.size := by
    rw [List.length_append]
    exact h
  obtain ⟨di', hdi', hfield, hframe⟩ := di.write_field hlen
  refine ⟨di', hdi', ?_, hframe⟩
  rw [hfield, List.length_append, List.append_assoc]
  rfl

end DeviceInfo

/-! ## What is to be kept -/

/-- The members hold the same strings. -/
def SameStrings (di di' : DeviceInfo) : Prop := ∀ f, di.string f = di'.string f

/-- `delete_gwyitem` tells the callback of a record what was told when it was
added: every member ends, no copy reaches beyond its member, and the two are
the same. -/
structure InfoKept (same : DeviceInfo → DeviceInfo → Prop)
    (added : DeviceInfo) (d : GwyDeviceData) (uninitialised : DeviceInfo) :
    Prop where
  terminated : ∀ f, added.Terminated f
  within_add : ∀ f (di : DeviceInfo), ∀ g ≠ f,
    (di.strncpyField f (d.text f)).field g = di.field g
  within_delete : ∀ f (di : DeviceInfo),
    ∃ di' ∈ di.strcpyField f (d.text f), ∀ g ≠ f, di'.field g = di.field g
  kept : ∃ di ∈ copyInfo uninitialised d,
    (∀ f, di.Terminated f) ∧ same added di

/-- Each of the strings is shorter than its member. -/
def InfoFits (d : GwyDeviceData) : Prop :=
  ∀ f, (d.text f).bytes.length < f.size

/-- What was in the members behind the strings is 0. -/
def RestZero (di : DeviceInfo) (d : GwyDeviceData) : Prop :=
  ∀ f, ∀ b ∈ (di.field f).drop ((d.text f).bytes.length + 1), b = 0

/-- The members are the strings of the record, as `strncpy` copies them. -/
def Filled (di : DeviceInfo) (d : GwyDeviceData) : Prop :=
  ∀ f, di.field f = CStr.padTo f.size (d.text f).bytes

section Kept

variable {added uninitialised : DeviceInfo} {d : GwyDeviceData}

/-- `strncpy` ends its copy exactly if there is room for the NUL. -/
theorem zero_mem_padTo {n : ℕ} {s : CStr} :
    0 ∈ CStr.padTo n s.bytes ↔ s.bytes.length < n := by
  have htake : 0 ∉ s.bytes.take n := fun h =>
    s.nul_free (List.mem_of_mem_take h)
  simp [CStr.padTo, htake]
  omega

theorem terminated_iff (h : Filled added d) :
    (∀ f, added.Terminated f) ↔ InfoFits d := by
  apply forall_congr'
  intro f
  rw [DeviceInfo.Terminated, h f]
  exact zero_mem_padTo

theorem padTo_of_lt {n : ℕ} {l : List UInt8} (h : l.length < n) :
    CStr.padTo n l = l ++ 0 :: List.replicate (n - (l.length + 1)) 0 := by
  rw [CStr.padTo, List.take_of_length_le h.le, ← List.replicate_succ]
  congr 2
  omega

/-- The three copies of `delete_gwyitem`, if they fit. -/
theorem copyInfo_of_fits (h : InfoFits d) (di : DeviceInfo) :
    ∃ di', copyInfo di d = some di' ∧
      ∀ f, di'.field f = (d.text f).bytes ++
        0 :: (di.field f).drop ((d.text f).bytes.length + 1) := by
  obtain ⟨di₁, h₁, hself₁, hframe₁⟩ := di.strcpyField_field (h .ipv4)
  obtain ⟨di₂, h₂, hself₂, hframe₂⟩ := di₁.strcpyField_field (h .mac)
  obtain ⟨di₃, h₃, hself₃, hframe₃⟩ := di₂.strcpyField_field (h .ipv6)
  refine ⟨di₃, ?_, fun f => ?_⟩
  · show (di.strcpyField .ipv4 (d.text .ipv4)).bind _ = _
    rw [h₁, Option.bind_some]
    show (di₁.strcpyField .mac (d.text .mac)).bind _ = _
    rw [h₂, Option.bind_some]
    exact h₃
  · -- Each copy writes one member and leaves the other two.
    cases f with
    | ipv4 => rw [hframe₃ _ (by decide), hframe₂ _ (by decide), hself₁]
    | mac => rw [hframe₃ _ (by decide), hself₂, hframe₁ _ (by decide)]
    | ipv6 => rw [hself₃, hframe₂ _ (by decide), hframe₁ _ (by decide)]

/-- Where the strings fit, it is left to compare the two. -/
theorem infoKept_iff {same : DeviceInfo → DeviceInfo → Prop}
    (hadded : Filled added d) :
    InfoKept same added d uninitialised ↔
      InfoFits d ∧ ∃ di ∈ copyInfo uninitialised d, same added di := by
  constructor
  · rintro ⟨hterm, -, -, di, hdi, -, hsame⟩
    exact ⟨(terminated_iff hadded).mp hterm, di, hdi, hsame⟩
  · rintro ⟨hfits, di, hdi, hsame⟩
    refine ⟨(terminated_iff hadded).mpr hfits, fun f di =>
      (di.strncpyField_field f _).2, fun f di => ?_, di, hdi, fun f => ?_,
      hsame⟩
    · obtain ⟨di', hdi', -, hframe⟩ := di.strcpyField_field (hfits f)
      exact ⟨di', hdi', hframe⟩
    · obtain ⟨di', hdi', hfield⟩ := copyInfo_of_fits hfits uninitialised
      obtain rfl := Option.some.inj (hdi'.symm.trans hdi)
      rw [DeviceInfo.Terminated, hfield f]
      simp

/-- The strings are kept exactly if they fit. -/
theorem infoKept_sameStrings_iff (hadded : Filled added d) :
    InfoKept SameStrings added d uninitialised ↔ InfoFits d := by
  rw [infoKept_iff hadded]
  apply and_iff_left_of_imp
  intro hfits
  obtain ⟨di, hdi, hfield⟩ := copyInfo_of_fits hfits uninitialised
  refine ⟨di, hdi, fun f => ?_⟩
  have hnul : ∀ b ∈ (d.text f).bytes, decide (b ≠ 0) = true := by
    intro b hb
    exact decide_eq_true (ne_of_mem_of_not_mem hb (d.text f).nul_free)
  rw [DeviceInfo.string, DeviceInfo.string, hadded f, hfield f,
    padTo_of_lt (hfits f), List.takeWhile_append_of_pos hnul,
    List.takeWhile_append_of_pos hnul]
  rfl

/-- Every byte is kept exactly if what lies behind the strings is 0 too. -/
theorem infoKept_eq_iff (hadded : Filled added d) :
    InfoKept Eq added d uninitialised ↔
      InfoFits d ∧ RestZero uninitialised d := by
  rw [infoKept_iff hadded]
  apply and_congr_right
  intro hfits
  obtain ⟨di, hdi, hfield⟩ := copyInfo_of_fits hfits uninitialised
  have hmember : ∀ f, added.field f = di.field f ↔
      ∀ b ∈ (uninitialised.field f).drop ((d.text f).bytes.length + 1),
        b = 0 := by
    intro f
    rw [hadded f, hfield f, padTo_of_lt (hfits f),
      List.append_cancel_left_eq, List.cons_inj_right, eq_comm,
      List.eq_replicate_iff, List.length_drop, DeviceInfo.length_field,
      and_iff_right rfl]
  constructor
  · rintro ⟨di', hdi', rfl⟩ f
    obtain rfl := Option.some.inj (hdi.symm.trans hdi')
    exact (hmember f).mp rfl
  · intro hrest
    exact ⟨di, hdi, DeviceInfo.eq_of_fields fun f => (hmember f).mpr (hrest f)⟩

end Kept

/-! ## Runs -/

namespace GwyDeviceData

@[simp] theorem strip_strip (d : GwyDeviceData) : d.strip.strip = d.strip := by
  simp [strip]

theorem text_assign (d : GwyDeviceData) (f : InfoField) (s : CStr) :
    (d.assign f s).text f = s ∧ ∀ g ≠ f, (d.assign f s).text g = d.text g := by
  cases f <;> refine ⟨rfl, fun g hg => ?_⟩ <;> cases g <;>
    first | rfl | exact absurd rfl hg

/-- Records that differ in white space around the serial number only. -/
theorem text_of_strip_eq {d e : GwyDeviceData} (h : d.strip = e.strip)
    (f : InfoField) : d.text f = e.text f := by
  have hself : ∀ d : GwyDeviceData, d.strip.text f = d.text f := by
    intro d
    cases f <;> rfl
  rw [← hself d, h, hself]

end GwyDeviceData

theorem filled_of_strip_eq {di : DeviceInfo} {d e : GwyDeviceData}
    (h : d.strip = e.strip) (hdi : Filled di d) : Filled di e := by
  intro f
  rw [← GwyDeviceData.text_of_strip_eq h]
  exact hdi f

section Lists

variable {sno : Option CStr} {d e : GwyDeviceData} {l : List GwyDeviceData}

theorem mem_listFindSno (h : e ∈ (listFindSno sno l).1) :
    ∃ d ∈ l, d.strip = e.strip := by
  induction l with
  | nil => cases h
  | cons d ds ih =>
      have hhead : ∀ ds', e ∈ d.strip :: ds' → (e ∈ ds' → ∃ d ∈ ds,
          d.strip = e.strip) → ∃ d' ∈ d :: ds, d'.strip = e.strip := by
        intro ds' he htail
        rcases List.mem_cons.mp he with rfl | he
        · exact ⟨d, List.mem_cons_self, d.strip_strip.symm⟩
        · obtain ⟨d', hd', hstrip⟩ := htail he
          exact ⟨d', List.mem_cons_of_mem d hd', hstrip⟩
      rw [listFindSno] at h
      split at h
      · exact hhead ds h fun he => ⟨e, he, rfl⟩
      · exact hhead _ h ih

/-- What the search finds is in the list it leaves. -/
theorem found_mem_listFindSno (h : (listFindSno sno l).2 = some e) :
    e ∈ (listFindSno sno l).1 := by
  induction l with
  | nil => cases h
  | cons d ds ih =>
      rw [listFindSno] at h ⊢
      split at h
      · rename_i hd
        rw [if_pos hd]
        obtain rfl := Option.some.inj h
        exact List.mem_cons_self
      · rename_i hd
        rw [if_neg hd]
        exact List.mem_cons_of_mem _ (ih h)

theorem mem_listInsertSorted (h : e ∈ listInsertSorted d l) :
    d.strip = e.strip ∨ ∃ d' ∈ l, d'.strip = e.strip := by
  induction l generalizing d with
  | nil =>
      obtain rfl := List.mem_singleton.mp h
      exact .inl rfl
  | cons c cs ih =>
      rw [listInsertSorted] at h
      split at h
      · rcases List.mem_cons.mp h with rfl | h
        · exact .inl d.strip_strip.symm
        rcases List.mem_cons.mp h with rfl | h
        · exact .inr ⟨c, List.mem_cons_self, c.strip_strip.symm⟩
        · exact .inr ⟨e, List.mem_cons_of_mem c h, rfl⟩
      · rcases List.mem_cons.mp h with rfl | h
        · exact .inr ⟨c, List.mem_cons_self, c.strip_strip.symm⟩
        rcases ih h with hd | ⟨d', hd', hstrip⟩
        · rw [GwyDeviceData.strip_strip] at hd
          exact .inl hd
        · exact .inr ⟨d', List.mem_cons_of_mem c hd', hstrip⟩

end Lists

/-- The callback was told of the record when it was added. -/
def WasAdded (s : IdmState) (d : GwyDeviceData) : Prop :=
  ∃ a ∈ s.reports, a.added = true ∧ a.gwydata.strip = d.strip ∧ Filled a.di d

/-- Every record in progress or listed has its strings in a `device_info_t`. -/
structure Informed (s : IdmState) : Prop where
  calls : ∀ c ∈ s.calls, Filled c.di c.gwydata
  listed : ∀ d ∈ s.xdevlist, WasAdded s d

section Step

variable {s s' : IdmState} {d e : GwyDeviceData}

theorem wasAdded_of_strip_eq (h : d.strip = e.strip) (hd : WasAdded s d) :
    WasAdded s e := by
  obtain ⟨a, ha, hadded, hstrip, hdi⟩ := hd
  exact ⟨a, ha, hadded, hstrip.trans h, filled_of_strip_eq h hdi⟩

/-- Reports are only added. -/
theorem WasAdded.mono (hsub : s.reports ⊆ s'.reports) (hd : WasAdded s d) :
    WasAdded s' d := by
  obtain ⟨a, ha, hrest⟩ := hd
  exact ⟨a, hsub ha, hrest⟩

theorem Informed.mono (hs : Informed s) (hcalls : s'.calls ⊆ s.calls)
    (hlist : ∀ e ∈ s'.xdevlist, ∃ d ∈ s.xdevlist, d.strip = e.strip)
    (hsub : s.reports ⊆ s'.reports) : Informed s' := by
  refine ⟨fun c hc => hs.calls c (hcalls hc), fun e he => ?_⟩
  obtain ⟨d, hd, hstrip⟩ := hlist e he
  exact (wasAdded_of_strip_eq hstrip (hs.listed d hd)).mono hsub

theorem filled_fill {c : Call} (hc : Filled c.di c.gwydata) (f : InfoField)
    (result : Option (Option CStr)) (next : Request) :
    Filled (c.fill f result next).di (c.fill f result next).gwydata := by
  unfold Call.fill
  cases result with
  | none => exact hc
  | some temp =>
      obtain ⟨hself, hother⟩ := c.gwydata.text_assign f
        (temp.getD (c.gwydata.text f))
      intro g
      dsimp only
      obtain ⟨hcopy, hframe⟩ := c.di.strncpyField_field f
        ((c.gwydata.assign f (temp.getD (c.gwydata.text f))).text f)
      rcases eq_or_ne g f with rfl | hg
      · exact hcopy
      · rw [hframe g hg, hother g hg]
        exact hc g

theorem filled_zero (sno receiverid : CStr) :
    Filled .zero { initGwydata with serialNum := sno, receiverid } := by
  have hzero : ∀ f, DeviceInfo.zero.field f = CStr.padTo f.size [] := by
    intro f
    cases f <;> decide
  intro f
  rw [hzero f]
  cases f <;> rfl

theorem informed_available (hs : Informed s) (p : DeviceProxy) :
    Informed (deviceProxyAvailableCbBgw p s) := by
  unfold deviceProxyAvailableCbBgw
  cases hf : listFindSno p.serialNumber s.xdevlist with
  | mk ds found =>
      have hlist : ∀ e ∈ ds, ∃ d ∈ s.xdevlist, d.strip = e.strip := by
        intro e he
        apply @mem_listFindSno p.serialNumber
        rw [hf]
        exact he
      have hkept : Informed { s with xdevlist := ds } :=
        hs.mono (List.Subset.refl _) hlist (List.Subset.refl _)
      cases found with
      | some d => exact hkept
      | none =>
          dsimp only
          split
          · refine ⟨fun c hc => ?_, hkept.listed⟩
            rcases List.mem_cons.mp hc with rfl | hc
            · exact filled_zero _ _
            · exact hs.calls c hc
          · exact hkept

theorem informed_accountAnswered (hs : Informed s) {c : Call} {cs : List Call}
    (hcalls : s.calls = c :: cs) (temp : CStr) :
    Informed (accountAnswered c temp s) := by
  have htail : s.calls.tail ⊆ s.calls := List.tail_subset _
  have hkept : ∀ e ∈ s.xdevlist, ∃ d ∈ s.xdevlist, d.strip = e.strip :=
    fun e he => ⟨e, he, rfl⟩
  unfold accountAnswered
  split
  · dsimp only
    split
    · refine ⟨fun c' hc' => hs.calls c' (htail hc'), fun e he => ?_⟩
      have hc := hs.calls c (by rw [hcalls]; exact List.mem_cons_self)
      rcases mem_listInsertSorted he with hstrip | ⟨d, hd, hstrip⟩
      · refine ⟨⟨c.gwydata, c.di, true, true⟩, ?_, rfl, hstrip,
          filled_of_strip_eq hstrip hc⟩
        exact List.mem_append_right _ (List.mem_singleton_self _)
      · exact (wasAdded_of_strip_eq hstrip (hs.listed d hd)).mono
          (List.subset_append_left _ _)
    · exact hs.mono htail hkept (List.Subset.refl _)
  · exact hs.mono htail hkept (List.Subset.refl _)

theorem informed_resume (hs : Informed s) {result : Option (Option CStr)}
    (h : resume result s = some s') : Informed s' := by
  cases hcalls : s.calls with
  | nil =>
      rw [resume, hcalls] at h
      cases h
  | cons c cs =>
      have hc : Filled c.di c.gwydata :=
        hs.calls c (by rw [hcalls]; exact List.mem_cons_self)
      by_cases hreq : c.request = .getAccountId
      · rw [resume, hcalls] at h
        dsimp only at h
        rw [hreq] at h
        rcases result with _ | _ | temp
        · obtain rfl := Option.some.inj h
          exact hs.mono (List.tail_subset _) (fun e he => ⟨e, he, rfl⟩)
            (List.Subset.refl _)
        · cases h
        · obtain rfl := Option.some.inj h
          exact informed_accountAnswered hs hcalls temp
      · obtain ⟨f, next, hgo⟩ := resume_early hcalls hreq result
        obtain rfl := Option.some.inj (hgo.symm.trans h)
        refine ⟨fun c' hc' => ?_, hs.listed⟩
        rcases List.mem_cons.mp hc' with rfl | hc'
        · exact filled_fill hc f result next
        · apply hs.calls c'
          rw [hcalls]
          exact List.mem_cons_of_mem c hc'

theorem informed_unavailable (hs : Informed s) {sno : Option CStr}
    {di : DeviceInfo} (h : deviceProxyUnavailableCbBgw sno di s = some s') :
    Informed s' := by
  unfold deviceProxyUnavailableCbBgw at h
  dsimp only at h
  split at h
  · obtain rfl := Option.some.inj h
    exact ⟨hs.calls, hs.listed⟩
  · unfold deleteGwyitem at h
    dsimp only at h
    cases hf : listFindSno sno s.xdevlist with
    | mk ds found =>
        have hlist : ∀ e ∈ ds, ∃ d ∈ s.xdevlist, d.strip = e.strip := by
          intro e he
          apply @mem_listFindSno sno
          rw [hf]
          exact he
        rw [hf] at h
        cases found with
        | none =>
            obtain rfl := Option.some.inj h
            exact hs.mono (List.Subset.refl _) hlist (List.Subset.refl _)
        | some d =>
            obtain ⟨di', -, rfl⟩ := Option.map_eq_some_iff.mp h
            exact hs.mono (List.Subset.refl _)
              (fun e he => hlist e (List.mem_of_mem_eraseP he))
              (List.subset_append_left _ _)

/-- **One event.** -/
theorem informed_step {e : Event} (hs : Informed s)
    (h : step s e = some s') : Informed s' := by
  cases e with
  | start serialNum reads =>
      unfold step at h
      dsimp only at h
      split at h
      · cases h
      · obtain ⟨x, -, rfl⟩ := Option.map_eq_some_iff.mp h
        exact ⟨hs.calls, hs.listed⟩
  | notice n =>
      unfold step at h
      dsimp only at h
      split at h
      · cases n with
        | available p =>
            cases p with
            | none =>
                obtain rfl := Option.some.inj h
                exact hs
            | some p =>
                obtain rfl := Option.some.inj h
                exact informed_available hs p
        | answer result => exact informed_resume hs h
        | unavailable sno di => exact informed_unavailable hs h
        | getAccountId source =>
            obtain rfl := Option.some.inj h
            exact ⟨hs.calls, hs.listed⟩
      · cases h
  | stop gone =>
      unfold step at h
      dsimp only at h
      split at h
      · obtain ⟨t, ht, rfl⟩ := Option.map_eq_some_iff.mp h
        have hgone : Informed t :=
          runFrom_invariant' (fun _ _ _ hs h => informed_unavailable hs h)
            hs ht
        exact hgone.mono (List.Subset.refl _)
          (fun e he => ⟨e, List.mem_of_mem_tail he, rfl⟩) (List.Subset.refl _)
      · cases h

end Step

theorem informed_initState : Informed initState := by
  constructor
  · intro c hc
    cases hc
  · intro d hd
    cases hd

/-- **Added and removed.** In whatever state a run has led to, for every device
that `delete_gwyitem` finds: the callback was told of it, and is told the same
strings again, without a copy reaching beyond its member, exactly if each
string is shorter than its member; and the same bytes exactly if the stack
held zeros behind them besides. -/
theorem removed_info_iff {es : List Event} {s : IdmState}
    (hrun : runFrom step initState es = some s) {sno : Option CStr}
    {d : GwyDeviceData} (hfound : (listFindSno sno s.xdevlist).2 = some d)
    (uninitialised : DeviceInfo) :
    ∃ a ∈ s.reports, a.added = true ∧ a.gwydata.strip = d.strip ∧
      (InfoKept SameStrings a.di d uninitialised ↔ InfoFits d) ∧
      (InfoKept Eq a.di d uninitialised ↔
        InfoFits d ∧ RestZero uninitialised d) := by
  have hs : Informed s :=
    runFrom_invariant' (fun _ _ _ => informed_step) informed_initState hrun
  obtain ⟨d', hd', hstrip⟩ := mem_listFindSno (found_mem_listFindSno hfound)
  obtain ⟨a, ha, hadded, hrecord, hdi⟩ :=
    wasAdded_of_strip_eq hstrip (hs.listed d' hd')
  exact ⟨a, ha, hadded, hrecord, infoKept_sameStrings_iff hdi,
    infoKept_eq_iff hdi⟩

/-- The client is started, and a device with this address is let in. -/
def addressRun (clientip : CStr) : List Event :=
  .start (.lit "P1") [.syscfg (some (.lit "123"))] ::
    .notice (.available (some (gatewayProxy "P2"))) ::
    [clientip, .lit "00:11:22:33:44:55", .lit "fe80::1", .lit "123"].map
      fun answer => .notice (.answer (some (some answer)))

/-- Where that leads to. -/
def addressState (clientip : CStr) : IdmState :=
  (runFrom step initState (addressRun clientip)).getD initState

/-- The record that is listed then. -/
def addressDevice (clientip : CStr) : GwyDeviceData where
  serialNum := .lit "P2"
  gwyipv6 := .lit "fe80::1"
  bcastmacaddress := .lit "00:11:22:33:44:55"
  receiverid := .lit "7c1fc9a0"
  clientip := clientip

theorem removed_info_iff_listed :
    ∃ a ∈ (addressState (.lit "10.0.0.2")).reports, a.added = true ∧
      a.gwydata.strip = (addressDevice (.lit "10.0.0.2")).strip ∧
      (InfoKept SameStrings a.di (addressDevice (.lit "10.0.0.2")) .zero ↔
        InfoFits (addressDevice (.lit "10.0.0.2"))) ∧
      (InfoKept Eq a.di (addressDevice (.lit "10.0.0.2")) .zero ↔
        InfoFits (addressDevice (.lit "10.0.0.2")) ∧
          RestZero .zero (addressDevice (.lit "10.0.0.2"))) :=
  @removed_info_iff (addressRun (.lit "10.0.0.2"))
    (addressState (.lit "10.0.0.2")) rfl (some (.lit "P2"))
    (addressDevice (.lit "10.0.0.2")) (by decide +kernel) .zero

/-- An address of 19 characters: what was reported of the device does not end
in its member. -/
theorem long_clientip_not_kept :
    runFrom step initState (addressRun (.lit "2001:db8::1234:5678")) =
        some (addressState (.lit "2001:db8::1234:5678")) ∧
      addressDevice (.lit "2001:db8::1234:5678") ∈
        (addressState (.lit "2001:db8::1234:5678")).xdevlist ∧
      (addressState (.lit "2001:db8::1234:5678")).reports.map Report.added =
        [true] ∧
      ∀ a ∈ (addressState (.lit "2001:db8::1234:5678")).reports,
        ¬ InfoKept SameStrings a.di
          (addressDevice (.lit "2001:db8::1234:5678")) .zero := by
  refine ⟨rfl, by decide +kernel, by decide +kernel, fun a ha h => ?_⟩
  have hall : ∀ a ∈ (addressState (.lit "2001:db8::1234:5678")).reports,
      ¬ a.di.Terminated .ipv4 := by decide +kernel
  exact hall a ha (h.terminated .ipv4)

end Xupnp.Idm
