import Xupnp.Discovery.Publish
import Xupnp.XcalDevice.Hosts

/-!
# Which host and DNS strings pass the gate

`checkvalidhostname` takes a string if one of its tokens is a valid address, and
`checkvalidip` takes an empty one for valid. A separator at the end or a second
one in a row is enough then: `checkvalidhostname_justified_iff` says which
strings are taken for a reason. Those that `getdnsconfig` and `getetchosts`
publish end in a separator, whatever the files hold, and none is ever rejected.
-/

namespace Xupnp.Discovery

open Xupnp.Library

/-! ## Accepted strings -/

/-- `g_strsplit_set (hostname, " ;\n\0", -1)` on the stripped string. -/
def hostTokens (hostname : CStr) : List CStr :=
  hostname.strip.tokens isHostDelim

/-- There is a reason to take the string: it is empty, says `null`, or has an
address. -/
def Justified (hostname : CStr) : Prop :=
  hostname.strip = .empty ∨ hostname.strip.contains (.lit "null") = true ∨
    ∃ t ∈ hostTokens hostname, t ≠ .empty ∧
      (Inet.pton4 t.bytes = true ∨ Inet.pton6 t.bytes = true)

/-- A token is empty or all white space. -/
def HasBlankToken (hostname : CStr) : Prop :=
  ∃ t ∈ hostTokens hostname, t.strip = .empty

instance (hostname : CStr) : Decidable (Justified hostname) := by
  unfold Justified
  infer_instance

instance (hostname : CStr) : Decidable (HasBlankToken hostname) := by
  unfold HasBlankToken
  infer_instance

section Accepted

variable {t hostname : CStr}

/-- The test both checks begin with. -/
theorem gate_iff {b : Bool} :
    (if t.contains (.lit "null") || t == .empty then true else b) = true ↔
      t.contains (.lit "null") = true ∨ t = .empty ∨ b = true := by
  split
  · rename_i h
    rw [Bool.or_eq_true, beq_iff_eq] at h
    refine iff_of_true rfl ?_
    rcases h with h | h
    · exact Or.inl h
    · exact Or.inr (Or.inl h)
  · rename_i h
    rw [Bool.or_eq_true, beq_iff_eq, not_or] at h
    constructor
    · intro hb
      exact Or.inr (Or.inr hb)
    · rintro (hn | he | hb)
      · exact absurd hn h.1
      · exact absurd he h.2
      · exact hb

theorem checkvalidip_iff : checkvalidip t = true ↔
    t.strip.contains (.lit "null") = true ∨ t.strip = .empty ∨
      Inet.pton4 t.bytes = true ∨ Inet.pton6 t.bytes = true := by
  rw [← Bool.or_eq_true]
  exact gate_iff

theorem checkvalidhostname_iff_any : checkvalidhostname hostname = true ↔
    hostname.strip.contains (.lit "null") = true ∨ hostname.strip = .empty ∨
      ∃ t ∈ hostTokens hostname, checkvalidip t = true := by
  rw [← List.any_eq_true]
  exact gate_iff

/-- What a token says, the string says. -/
theorem contains_of_token (ht : t ∈ hostTokens hostname) {n : CStr}
    (h : t.strip.contains n = true) : hostname.strip.contains n = true := by
  rw [CStr.contains_iff] at h ⊢
  exact (h.trans (CStr.stripBytes_infix t.bytes)).trans
    (CStr.infix_of_mem_tokens ht)

/-- An empty text is no address. -/
theorem ne_empty_of_pton
    (h : Inet.pton4 t.bytes = true ∨ Inet.pton6 t.bytes = true) :
    t ≠ .empty := by
  rintro rfl
  rcases h with h | h <;> cases h

/-- A string is taken for a reason, or for a blank token. -/
theorem checkvalidhostname_iff : checkvalidhostname hostname = true ↔
    Justified hostname ∨ HasBlankToken hostname := by
  rw [checkvalidhostname_iff_any]
  constructor
  · rintro (hn | he | ⟨t, ht, hv⟩)
    · exact Or.inl (Or.inr (Or.inl hn))
    · exact Or.inl (Or.inl he)
    · rcases checkvalidip_iff.mp hv with hn | he | hv
      · exact Or.inl (Or.inr (Or.inl (contains_of_token ht hn)))
      · exact Or.inr ⟨t, ht, he⟩
      · exact Or.inl (Or.inr (Or.inr ⟨t, ht, ne_empty_of_pton hv, hv⟩))
  · rintro ((he | hn | ⟨t, ht, -, hv⟩) | ⟨t, ht, he⟩)
    · exact Or.inr (Or.inl he)
    · exact Or.inl hn
    · exact Or.inr (Or.inr ⟨t, ht, checkvalidip_iff.mpr (Or.inr (Or.inr hv))⟩)
    · exact Or.inr (Or.inr ⟨t, ht, checkvalidip_iff.mpr (Or.inr (Or.inl he))⟩)

end Accepted

/-! ## Published strings -/

/-- `entry;entry;` -/
def hostForm (entries : List CStr) : CStr :=
  entries.foldr (fun e s => e ++ .lit ";" ++ s) .empty

/-- The loop of `getdnsconfig` and of `parsednsconfig` over the lines of the
file. -/
def dnsconfigLoop (firsttok : Bool) (strdnsconfig : CStr) : List CStr → CStr
  | [] => strdnsconfig
  | tok :: tokens =>
      if tok.strip ≠ .empty then
        if firsttok = false then
          dnsconfigLoop false (strdnsconfig ++ (tok.strip ++ .lit ";")) tokens
        else dnsconfigLoop false (tok.strip ++ .lit ";") tokens
      else dnsconfigLoop firsttok strdnsconfig tokens

/-- `dnsconfig` after `getdnsconfig` has read the file. -/
def getdnsconfig (dnsconfigfile : List UInt8) : CStr :=
  dnsconfigLoop true .empty ((CStr.upToNul dnsconfigfile).tokens (· == 0x0A))

section Published

variable (e : CStr) (es : List CStr)

theorem hostForm_cons : hostForm (e :: es) = e ++ .lit ";" ++ hostForm es := rfl

/-- The loop puts the lines that are not blank behind what it has. -/
theorem dnsconfigLoop_append (tokens : List CStr) (s : CStr) :
    dnsconfigLoop false s tokens =
      s ++ hostForm ((tokens.map CStr.strip).filter (· ≠ .empty)) := by
  induction tokens generalizing s with
  | nil => exact (CStr.append_empty s).symm
  | cons tok tokens ih =>
      rw [dnsconfigLoop, List.map_cons]
      by_cases h : tok.strip = .empty
      · rw [if_neg (not_not.mpr h), ih, List.filter_cons_of_neg (by simp [h])]
      · rw [if_pos h, if_pos rfl, ih, List.filter_cons_of_pos (by simp [h]),
          hostForm_cons, CStr.append_assoc]

theorem getdnsconfig_hostForm (dnsconfigfile : List UInt8) : ∃ es,
    getdnsconfig dnsconfigfile = hostForm es := by
  unfold getdnsconfig
  generalize (CStr.upToNul dnsconfigfile).tokens (· == 0x0A) = tokens
  induction tokens with
  | nil => exact ⟨[], rfl⟩
  | cons tok tokens ih =>
      rw [dnsconfigLoop]
      by_cases h : tok.strip = .empty
      · rw [if_neg (not_not.mpr h)]
        exact ih
      · rw [if_pos h, if_neg (by decide), dnsconfigLoop_append]
        exact ⟨tok.strip :: _, rfl⟩

theorem hostForm_concat : hostForm (es ++ [e]) =
    hostForm es ++ (e ++ .lit ";") := by
  induction es with
  | nil => exact CStr.append_empty _
  | cons e' es ih =>
      rw [List.cons_append, hostForm_cons, ih, hostForm_cons]
      exact (CStr.append_assoc _ _ _).symm

/-- The loop over the lines of the hosts file puts entries behind what it
has. -/
theorem hostsLoop_hostForm (gwyip : CStr) (tokens : List CStr) : ∃ es',
    XcalDevice.hostsLoop gwyip (hostForm es) tokens = hostForm es' := by
  induction tokens generalizing es with
  | nil => exact ⟨es, rfl⟩
  | cons token tokens ih =>
      rw [XcalDevice.hostsLoop_cons]
      split
      · have hentry : hostForm es ++ XcalDevice.hostEntry gwyip token =
            hostForm (es ++ [gwyip ++ .lit " " ++ token.strip]) := by
          rw [hostForm_concat, XcalDevice.hostEntry, CStr.append_assoc _ _
            (token.strip), CStr.append_assoc gwyip, CStr.append_assoc gwyip,
            CStr.append_assoc (.lit " ")]
        rw [hentry]
        exact ih _
      · exact ih es

/-- `etchosts` after `getetchosts` has read the file. -/
theorem getetchosts_hostForm (ipv6Enabled : Bool) (gwyip etchosts : CStr)
    (etchostsfile : List UInt8) : ∃ es,
    (XcalDevice.getetchosts (fun _ => some etchostsfile) ipv6Enabled gwyip
      etchosts).2 = hostForm es := by
  have hloop := XcalDevice.hostsLoop_firstHost gwyip
    ((CStr.upToNul etchostsfile).tokens (· == 0x0A))
  obtain ⟨es, hes⟩ := hostsLoop_hostForm [] gwyip
    ((CStr.upToNul etchostsfile).tokens (· == 0x0A))
  exact ⟨es, hloop.trans hes⟩

/-- Behind the last entry stands a separator. -/
theorem hostForm_cons_bytes : ∃ l, (hostForm (e :: es)).bytes = l ++ [0x3B] := by
  induction es generalizing e with
  | nil =>
      refine ⟨e.bytes, ?_⟩
      show e.bytes ++ [0x3B] ++ [] = e.bytes ++ [0x3B]
      exact List.append_nil _
  | cons e' es ih =>
      obtain ⟨l, hl⟩ := ih e'
      refine ⟨(e ++ .lit ";").bytes ++ l, ?_⟩
      rw [hostForm_cons, CStr.bytes_append, hl, List.append_assoc]

/-- Stripping does not reach a separator at the end. -/
theorem stripBytes_concat (l : List UInt8) :
    CStr.stripBytes (l ++ [0x3B]) = l.dropWhile CStr.isSpace ++ [0x3B] := by
  have hdrop : (l ++ [0x3B]).dropWhile CStr.isSpace =
      l.dropWhile CStr.isSpace ++ [0x3B] := by
    rw [List.dropWhile_append]
    split
    · rename_i h
      rw [List.isEmpty_iff.mp h]
      rfl
    · rfl
  rw [CStr.stripBytes, hdrop, List.rdropWhile_concat_neg _ _ _ (by decide)]

/-- The token behind the last separator is empty. -/
theorem hostForm_blank : HasBlankToken (hostForm (e :: es)) := by
  obtain ⟨l, hl⟩ := hostForm_cons_bytes e es
  have hstrip : (hostForm (e :: es)).strip.bytes =
      l.dropWhile CStr.isSpace ++ [0x3B] := by
    show CStr.stripBytes (hostForm (e :: es)).bytes = _
    rw [hl, stripBytes_concat]
  have hne : (hostForm (e :: es)).strip.bytes ≠ [] := by simp [hstrip]
  refine ⟨.ofBytes [], ?_, rfl⟩
  rw [hostTokens, CStr.tokens_of_ne_nil hne]
  apply List.mem_map_of_mem
  rw [hstrip, List.splitOnP_append_cons _ _ (by decide)]
  exact List.mem_append_right _ (by simp [List.splitOnP_nil])

theorem hostForm_accepted : checkvalidhostname (hostForm es) = true := by
  rw [checkvalidhostname_iff]
  cases es with
  | nil => exact Or.inl (Or.inl rfl)
  | cons e es => exact Or.inr (hostForm_blank e es)

end Published

/-! ## The result -/

/-- **Result.** A string is taken only for a reason exactly if it has one or no
token of it is blank. Every string of the form the gateways publish is taken,
whatever is in their files. -/
theorem checkvalidhostname_justified_iff (hostname : CStr)
    (entries : List CStr) (dnsconfigfile etchostsfile : List UInt8)
    (ipv6Enabled : Bool) (gwyip etchosts : CStr) :
    ((checkvalidhostname hostname = true → Justified hostname) ↔
      (HasBlankToken hostname → Justified hostname)) ∧
    checkvalidhostname (hostForm entries) = true ∧
    checkvalidhostname (getdnsconfig dnsconfigfile) = true ∧
    checkvalidhostname
      (XcalDevice.getetchosts (fun _ => some etchostsfile) ipv6Enabled gwyip
        etchosts).2 = true := by
  refine ⟨⟨fun h hblank => ?_, fun h hval => ?_⟩, hostForm_accepted _, ?_, ?_⟩
  · exact h (checkvalidhostname_iff.mpr (Or.inr hblank))
  · rcases checkvalidhostname_iff.mp hval with hj | hblank
    · exact hj
    · exact h hblank
  · obtain ⟨es, hes⟩ := getdnsconfig_hostForm dnsconfigfile
    rw [hes]
    exact hostForm_accepted es
  · obtain ⟨es, hes⟩ := getetchosts_hostForm ipv6Enabled gwyip etchosts
      etchostsfile
    rw [hes]
    exact hostForm_accepted es

/-- Two names without an address pass the gate. -/
theorem checkvalidhostname_justified_fails :
    getdnsconfig (CStr.ascii "foo\nbar\n") = .lit "foo;bar;" ∧
      checkvalidhostname (.lit "foo;bar;") = true ∧
      ¬ Justified (.lit "foo;bar;") ∧
      checkvalidhostname (.lit "foo;bar") = false := by
  decide +kernel

end Xupnp.Discovery
