import Xupnp.Discovery.ReplaceString

/-!
# The daemon's own address

`main` asks `getipaddress` for the address of one interface after the other and
takes any result that is not 0 for a success, also the -1 of a `getifaddrs`
that failed. The address is then whatever earlier calls left in `ipaddress`,
and `replace_string` is called to look for it: `replaceString_returns_iff` says
when these calls return.
-/

namespace Xupnp.Discovery

open Xupnp.Library

/-! ## `getipaddress` -/

inductive Family where
  | inet
  | inet6
  | other
deriving DecidableEq

/-- An entry of `getifaddrs`: the name of the interface, the family of its
address if it has one, and what `inet_ntop` prints for that. -/
structure IfAddr where
  name : CStr
  family : Option Family
  text : CStr
  text_ne : text.strip ≠ .empty

/-- Is the address printed, whether or not the interface is the right one? -/
def IfAddr.printed (ipv6Enabled : Bool) (a : IfAddr) : Bool :=
  match a.family with
  | some .inet6 => ipv6Enabled
  | some .inet => true
  | _ => false

/-- The loop of `getipaddress`: its result, and `ipAddressBuffer`. -/
def scanIfAddrs (ifname : CStr) (ipv6Enabled : Bool) :
    List IfAddr → CStr → ℤ × CStr
  | [], ipAddressBuffer => (0, ipAddressBuffer)
  | a :: ifas, ipAddressBuffer =>
      if a.printed ipv6Enabled then
        if a.name = ifname then (1, a.text)
        else scanIfAddrs ifname ipv6Enabled ifas a.text
      else scanIfAddrs ifname ipv6Enabled ifas ipAddressBuffer

/-- What a call of `getifaddrs` gives; none if it fails. -/
abbrev IfAddrs := Option (List IfAddr)

/-- `getipaddress` -/
def getipaddress (ifaddrs : IfAddrs) (ifname ipAddressBuffer : CStr)
    (ipv6Enabled : Bool) : ℤ × CStr :=
  match ifaddrs with
  | none => (-1, ipAddressBuffer)
  | some ifas => scanIfAddrs ifname ipv6Enabled ifas ipAddressBuffer

/-! ## The start of `main` -/

/-- At most `n` calls for one interface: whether one was taken for a success,
the calls of `getifaddrs` left, and `ipaddress`. `main` never sets
`ipv6Enabled`. -/
def tryInterface (ifname : CStr) :
    ℕ → List IfAddrs → CStr → Option (Bool × List IfAddrs × CStr)
  | 0, calls, ipaddress => some (false, calls, ipaddress)
  | _ + 1, [], _ => none
  | n + 1, ifaddrs :: calls, ipaddress =>
      let (result, ipaddress) := getipaddress ifaddrs ifname ipaddress false
      if result ≠ 0 then some (true, calls, ipaddress)
      else tryInterface ifname n calls ipaddress

/-- The loop over the interfaces of the configuration: a call and three retries
for each that is not blank. None is `exit (1)`. -/
def chooseInterface :
    List CStr → List IfAddrs → CStr → Option (List IfAddrs × CStr)
  | [], _, _ => none
  | token :: tokens, calls, ipaddress =>
      if token.strip = .empty then chooseInterface tokens calls ipaddress
      else
        match tryInterface token.strip 4 calls ipaddress with
        | none => none
        | some (true, calls, ipaddress) => some (calls, ipaddress)
        | some (false, calls, ipaddress) =>
            chooseInterface tokens calls ipaddress

/-- `ipaddress` when `main` goes on, if these were the calls of `getifaddrs` up
to there. -/
def ownAddress (discIf : CStr) (calls : List IfAddrs) : Option CStr :=
  match chooseInterface (discIf.tokens (· == 0x2C)) calls .empty with
  | some ([], ipaddress) => some ipaddress
  | _ => none

/-! ## Whether an address is found -/

/-- The call succeeds, and there is an IPv4 address in what it gives. -/
def ListsIpv4 (ifaddrs : IfAddrs) : Prop :=
  ∃ ifas, ifaddrs = some ifas ∧ ∃ a ∈ ifas, a.family = some .inet

theorem printed_false {a : IfAddr} :
    a.printed false = true ↔ a.family = some .inet := by
  unfold IfAddr.printed
  split
  · simp_all
  · simp_all
  · rename_i h
    exact iff_of_false (by simp) h

/-- A call leaves an address behind, if there was one or if it prints one. -/
theorem getipaddress_blank (ifaddrs : IfAddrs) (ifname ip : CStr) :
    (getipaddress ifaddrs ifname ip false).2.strip = .empty ↔
      ip.strip = .empty ∧ ¬ ListsIpv4 ifaddrs := by
  cases ifaddrs with
  | none =>
      refine (and_iff_left ?_).symm
      rintro ⟨ifas, h, -⟩
      cases h
  | some ifas =>
      have hlists : ListsIpv4 (some ifas) ↔
          ∃ a ∈ ifas, a.family = some .inet := by simp [ListsIpv4]
      rw [hlists]
      show (scanIfAddrs ifname false ifas ip).2.strip = .empty ↔ _
      clear hlists
      induction ifas generalizing ip with
      | nil =>
          show ip.strip = .empty ↔ _
          simp
      | cons a ifas ih =>
          rw [scanIfAddrs]
          by_cases ha : a.printed false = true
          · have hlisted : ∃ b ∈ a :: ifas, b.family = some .inet :=
              ⟨a, List.mem_cons_self, printed_false.mp ha⟩
            rw [if_pos ha]
            refine iff_of_false ?_ fun h => h.2 hlisted
            split
            · exact a.text_ne
            · rw [ih]
              exact fun h => a.text_ne h.1
          · have hskip : (∃ b ∈ a :: ifas, b.family = some .inet) ↔
                ∃ b ∈ ifas, b.family = some .inet := by
              rw [printed_false] at ha
              simp [ha]
            rw [if_neg ha, ih, hskip]

/-- The calls used up, and what they leave in `ipaddress`. -/
def Leaves (used : List IfAddrs) (ip ip' : CStr) : Prop :=
  ip'.strip = .empty ↔ ip.strip = .empty ∧ ∀ c ∈ used, ¬ ListsIpv4 c

theorem Leaves.append {used used' : List IfAddrs} {ip ip' ip'' : CStr}
    (h : Leaves used ip ip') (h' : Leaves used' ip' ip'') :
    Leaves (used ++ used') ip ip'' := by
  unfold Leaves at *
  rw [h', h, and_assoc]
  simp only [List.mem_append, or_imp, forall_and]

theorem tryInterface_leaves {ifname ip ip' : CStr} {n : ℕ} {b : Bool}
    {calls rest : List IfAddrs}
    (h : tryInterface ifname n calls ip = some (b, rest, ip')) :
    ∃ used, calls = used ++ rest ∧ Leaves used ip ip' := by
  induction n generalizing calls ip with
  | zero =>
      obtain ⟨-, rfl, rfl⟩ : _ ∧ _ ∧ _ := by simpa [tryInterface] using h
      exact ⟨[], rfl, by simp [Leaves]⟩
  | succ n ih =>
      cases calls with
      | nil => cases h
      | cons c calls =>
          have hone : Leaves [c] ip (getipaddress c ifname ip false).2 := by
            unfold Leaves
            rw [getipaddress_blank]
            simp
          rw [tryInterface] at h
          dsimp only at h
          split at h
          · obtain ⟨-, rfl, rfl⟩ : _ ∧ _ ∧ _ := by simpa using h
            exact ⟨[c], rfl, hone⟩
          · obtain ⟨used, rfl, hused⟩ := ih h
            exact ⟨c :: used, rfl, hone.append hused⟩

theorem chooseInterface_leaves {tokens : List CStr} {ip ip' : CStr}
    {calls rest : List IfAddrs}
    (h : chooseInterface tokens calls ip = some (rest, ip')) :
    ∃ used, calls = used ++ rest ∧ Leaves used ip ip' := by
  induction tokens generalizing calls ip with
  | nil => cases h
  | cons token tokens ih =>
      rw [chooseInterface] at h
      split at h
      · exact ih h
      · split at h
        · cases h
        · rename_i hready
          obtain ⟨rfl, rfl⟩ := Prod.mk.inj (Option.some.inj h)
          exact tryInterface_leaves hready
        · rename_i hfailed
          obtain ⟨used, rfl, hused⟩ := tryInterface_leaves hfailed
          obtain ⟨used', rfl, hused'⟩ := ih h
          refine ⟨used ++ used', ?_, hused.append hused'⟩
          rw [List.append_assoc]

/-- The daemon has an address if one of the calls listed one. -/
theorem ownAddress_ne_empty {discIf ip : CStr} {calls : List IfAddrs}
    (h : ownAddress discIf calls = some ip) :
    ip.strip ≠ .empty ↔ ∃ c ∈ calls, ListsIpv4 c := by
  unfold ownAddress at h
  split at h
  · rename_i ip' hchoose
    obtain rfl := Option.some.inj h
    obtain ⟨used, rfl, hused⟩ := chooseInterface_leaves hchoose
    have hblank : CStr.empty.strip = .empty := rfl
    unfold Leaves at hused
    rw [ne_eq, hused, List.append_nil]
    simp [hblank]
  · cases h

/-! ## Looking for the address -/

/-- A URL with an address in it replaced by that of the local host. -/
def withLocalHost (gwyip url : CStr) : CStr :=
  .ofBytes (replaceFrom gwyip.bytes localHostIP.bytes 0 url.bytes)

/-- The record with its three URLs rewritten. -/
def asOwnGateway (d : GwyDeviceData) : GwyDeviceData :=
  { d with
    isOwnGateway := true
    playbackurl := withLocalHost d.gwyip d.playbackurl
    baseurl := withLocalHost d.gwyip d.baseurl
    basetrmurl := withLocalHost d.gwyip d.basetrmurl }

/-- What `replace_local_device_ip` does. It looks for an empty address for
ever. -/
theorem replaceLocalDeviceIp_eq (cfg : Settings) (d : GwyDeviceData) :
    replaceLocalDeviceIp cfg d =
      if d.gwyip.strip = cfg.ipaddress.strip then
        if d.gwyip.strip = .empty then .error .diverges
        else .ok (asOwnGateway (d.strip .gwyip))
      else .ok (d.strip .gwyip) := by
  rw [replaceLocalDeviceIp]
  show (if d.gwyip.strip = cfg.ipaddress.strip then
      replaceHnWithLocal { d.strip .gwyip with isOwnGateway := true }
    else .ok (d.strip .gwyip)) = _
  by_cases hown : d.gwyip.strip = cfg.ipaddress.strip
  · rw [if_pos hown, if_pos hown]
    have hreplace : ∀ src : CStr, replaceString src d.gwyip.strip localHostIP =
        if d.gwyip.strip = .empty then .error .diverges
        else .ok (withLocalHost d.gwyip.strip src) := fun _ => rfl
    show (do
      let playbackurl ← replaceString d.playbackurl d.gwyip.strip localHostIP
      let baseurl ← replaceString d.baseurl d.gwyip.strip localHostIP
      let basetrmurl ← replaceString d.basetrmurl d.gwyip.strip localHostIP
      Except.ok { d.strip .gwyip with
        isOwnGateway := true, playbackurl, baseurl, basetrmurl }) = _
    rw [hreplace, hreplace, hreplace]
    by_cases hempty : d.gwyip.strip = .empty
    · rw [if_pos hempty, if_pos hempty, if_pos hempty, if_pos hempty]
      rfl
    · rw [if_neg hempty, if_neg hempty, if_neg hempty, if_neg hempty]
      rfl
  · rw [if_neg hown, if_neg hown]

/-- Rewriting leaves a URL alone that does not have the address in it, and one
where the address is that of the local host. -/
theorem withLocalHost_eq_self {gwyip url : CStr} (hne : gwyip ≠ .empty) :
    withLocalHost gwyip url = url ↔
      url.contains gwyip = false ∨ gwyip = localHostIP := by
  have hsub : gwyip.bytes ≠ [] := fun hnil => hne (CStr.ext hnil)
  obtain ⟨ps, hps⟩ := exists_pieces hsub url.bytes
  have hbytes : (withLocalHost gwyip url).bytes =
      localHostIP.bytes.intercalate ps := by
    rw [← replaceFrom_pieces hsub hps]
    apply List.filter_eq_self.mpr
    intro b hb
    rw [replaceFrom_pieces hsub hps] at hb
    rcases hps.mem_join hb with hb | hb
    · exact decide_eq_true (ne_of_mem_of_not_mem hb localHostIP.nul_free)
    · exact decide_eq_true (ne_of_mem_of_not_mem hb url.nul_free)
  have hcontains : url.contains gwyip = false ↔ ¬ gwyip.bytes <:+: url.bytes := by
    rw [← CStr.contains_iff, Bool.not_eq_true]
  have hlocal : gwyip = localHostIP ↔ localHostIP.bytes = gwyip.bytes :=
    ⟨fun h => (congrArg CStr.bytes h).symm, fun h => CStr.ext h.symm⟩
  rw [hcontains, hlocal, ← hps.join_eq_self_iff, ← hbytes]
  exact ⟨congrArg CStr.bytes, CStr.ext⟩

/-- The three calls of `replace_string` in `replace_hn_with_local` return. -/
def RewritesUrls (d : GwyDeviceData) : Prop :=
  ∀ src ∈ [d.playbackurl, d.baseurl, d.basetrmurl],
    ∃ fuel r, replaceStringRun fuel src d.gwyip localHostIP = some r

theorem rewritesUrls_iff (d : GwyDeviceData) :
    RewritesUrls d ↔ d.gwyip ≠ .empty := by
  unfold RewritesUrls
  simp [(replaceString_run _ d.gwyip localHostIP).2]

/-- **When `replace_string` returns.** It returns for every device with the
daemon's own address, exactly if `main` has seen an address: if one of its
calls of `getifaddrs` succeeded and listed one of IPv4. -/
theorem replaceString_returns_iff {discIf ip : CStr} {calls : List IfAddrs}
    (h : ownAddress discIf calls = some ip) :
    (∀ d : GwyDeviceData, d.gwyip.strip = ip.strip →
        RewritesUrls (d.strip .gwyip)) ↔
      ∃ c ∈ calls, ListsIpv4 c := by
  rw [← ownAddress_ne_empty h]
  constructor
  · intro hall
    have hd := hall { initGwydata with gwyip := ip.strip } (CStr.strip_strip ip)
    rw [rewritesUrls_iff] at hd
    show ip.strip ≠ .empty
    rw [← CStr.strip_strip ip]
    exact hd
  · intro hne d hd
    rw [rewritesUrls_iff]
    show d.gwyip.strip ≠ .empty
    rw [hd]
    exact hne

/-- An interface with an address. -/
def eth1 : IfAddr where
  name := .lit "eth1"
  family := some .inet
  text := .lit "10.0.0.1"
  text_ne := by decide

/-- The first of two interfaces is not there. -/
theorem replaceString_returns_eth1 :
    (∀ d : GwyDeviceData, d.gwyip.strip = (CStr.lit "10.0.0.1").strip →
        RewritesUrls (d.strip .gwyip)) ↔
      ∃ c ∈ [some [], some [], some [], some [], some [eth1]], ListsIpv4 c := by
  have hown : ownAddress (.lit "eth0, eth1")
      [some [], some [], some [], some [], some [eth1]] =
      some (.lit "10.0.0.1") := by decide
  exact replaceString_returns_iff hown

/-- Where `getifaddrs` fails, the address is empty, and the first device
without a gateway address is looked at for ever. -/
theorem replaceString_returns_fails :
    ownAddress (.lit "eth1") [none] = some .empty ∧
      initGwydata.gwyip.strip = CStr.empty.strip ∧
      ∀ fuel, replaceStringRun fuel initGwydata.playbackurl
        (initGwydata.strip .gwyip).gwyip localHostIP = none := by
  refine ⟨by decide, rfl, fun fuel => ?_⟩
  cases hrun : replaceStringRun fuel initGwydata.playbackurl
      (initGwydata.strip .gwyip).gwyip localHostIP with
  | none => rfl
  | some r =>
      have hne := (replaceString_run initGwydata.playbackurl
        (initGwydata.strip .gwyip).gwyip localHostIP).2.mp ⟨fuel, r, hrun⟩
      exact absurd rfl hne

end Xupnp.Discovery
