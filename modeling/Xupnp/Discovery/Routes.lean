import Mathlib.Data.Finset.Basic
import Xupnp.Library.Run
import Xupnp.Discovery.Trace
import Xupnp.Discovery.Steps

/-!
# Default routes

The gateway script installs a default route to the address of the gateway it is
run for, and `route del default gw` takes out what goes through an address. A
route belongs to the gateway it was installed for: when that one is removed, or
comes back with another address, the route is to be deleted. `routes_run_iff`
says which calls leave it so: those that neither remove a gateway with a route
nor give it another address, since nothing deletes the route of the entry that
goes.
-/

namespace Xupnp.Discovery

open Xupnp.Library Xupnp.WhiteList

/-! ## Routes installed -/

/-- A default route through an address, installed for a device. -/
structure DefaultRoute where
  device : CStr
  gwyip : CStr
deriving DecidableEq

/-- What the script installs for a record. -/
def routeOf (d : GwyDeviceData) : DefaultRoute := ⟨d.key, d.gwyip⟩

/-- What one effect does to the default routes. -/
def routeStep (R : Finset DefaultRoute) : Effect → Finset DefaultRoute
  | .gwSetup gwdata => insert (routeOf gwdata) R
  | .routeDel gwyip => R.filter (·.gwyip ≠ gwyip)
  | _ => R

/-- The default routes after some effects. -/
def routes (tr : List Effect) : Finset DefaultRoute := tr.foldl routeStep ∅

section Effects

variable {tr : List Effect} {r : DefaultRoute}

theorem routes_append_whiteList (ops : List DpOp) :
    routes (tr ++ ops.map Effect.whiteList) = routes tr := by
  rw [routes, List.foldl_append, ← routes]
  induction ops with
  | nil => rfl
  | cons op ops ih => exact ih

theorem mem_routes_append_gwSetup (ds : List GwyDeviceData) :
    r ∈ routes (tr ++ ds.map Effect.gwSetup) ↔
      r ∈ routes tr ∨ ∃ d ∈ ds, routeOf d = r := by
  induction ds using List.reverseRecOn with
  | nil => simp
  | append_singleton ds d ih =>
      have hlast : routes (tr ++ (ds ++ [d]).map Effect.gwSetup) =
          insert (routeOf d) (routes (tr ++ ds.map Effect.gwSetup)) := by
        rw [List.map_append, ← List.append_assoc, routes, List.foldl_append]
        rfl
      rw [hlast, Finset.mem_insert, ih]
      constructor
      · rintro (rfl | h | ⟨c, hc, rfl⟩)
        · exact Or.inr ⟨d, by simp, rfl⟩
        · exact Or.inl h
        · exact Or.inr ⟨c, List.mem_append_left _ hc, rfl⟩
      · rintro (h | ⟨c, hc, rfl⟩)
        · exact Or.inr (Or.inl h)
        · rcases List.mem_append.mp hc with hc | hc
          · exact Or.inr (Or.inr ⟨c, hc, rfl⟩)
          · exact Or.inl (by rw [List.mem_singleton.mp hc])

variable {cfg : Settings} {io : Io} {s : XState} {c d : GwyDeviceData}

/-- `update_gwylist` deletes routes to the new address at most. -/
theorem mem_routes_append_clearRoute (hr : r.gwyip ≠ d.gwyip.strip) :
    r ∈ routes (tr ++ clearRoute cfg c d) ↔ r ∈ routes tr := by
  unfold clearRoute
  split
  · rw [routes, List.foldl_append, ← routes]
    exact (Finset.mem_filter).trans (and_iff_left hr)
  · rw [List.append_nil]

theorem routes_append_clearRoute_subset :
    routes (tr ++ clearRoute cfg c d) ⊆ routes tr := by
  unfold clearRoute
  split
  · rw [routes, List.foldl_append, ← routes]
    exact Finset.filter_subset _ _
  · rw [List.append_nil]

/-- Before an update publishes, the routes are the old ones, less at most those
to the new address. -/
theorem mem_routes_updateEffects (hr : r.gwyip ≠ d.gwyip.strip) :
    r ∈ routes (s.trace ++ updateEffects cfg io s d) ↔ r ∈ routes s.trace := by
  rw [updateEffects, ← List.append_assoc, routes_append_whiteList]
  split
  · rw [← List.append_assoc, routes_append_whiteList,
      mem_routes_append_clearRoute hr]
  · rw [List.append_nil]

theorem routes_updateEffects_subset :
    routes (s.trace ++ updateEffects cfg io s d) ⊆ routes s.trace := by
  rw [updateEffects, ← List.append_assoc, routes_append_whiteList]
  split
  · rw [← List.append_assoc, routes_append_whiteList]
    exact routes_append_clearRoute_subset
  · rw [List.append_nil]

end Effects

/-! ## Routes and the list -/

/-- The device the route belongs to is listed, and has that address. -/
def Owned (s : XState) (r : DefaultRoute) : Prop :=
  ∃ d ∈ s.xdevlist, d.key = r.device ∧ d.gwyip.strip = r.gwyip

/-- Every default route belongs to a listed device with that address. So the
route of a gateway that is removed, or replaced by an entry with another
address, is deleted. -/
def RoutesOwned (s : XState) : Prop := ∀ r ∈ routes s.trace, Owned s r

/-- There is a route that was installed for this entry. -/
def HasRoute (s : XState) (c : GwyDeviceData) : Prop :=
  ⟨c.key, c.gwyip.strip⟩ ∈ routes s.trace

/-- The call removes no entry with a route, and gives none another address. -/
def KeepsRouted (s : XState) : DevOp → Prop
  | .update _ d => ∀ c ∈ s.xdevlist, c.key = d.key → HasRoute s c →
      c.gwyip.strip = d.gwyip.strip
  | .delete _ sno => ∀ c ∈ s.xdevlist, hasSno sno c = true → ¬ HasRoute s c
  | .publish _ => True

theorem Lists.owned_iff {s : XState} {t : DeviceTable} (h : Lists s t)
    (r : DefaultRoute) :
    Owned s r ↔ ∃ d ∈ t.entries, d.key = r.device ∧ d.gwyip = r.gwyip := by
  rw [← h, Owned]
  constructor
  · rintro ⟨d, hd, hkey, hip⟩
    exact ⟨d.normal, List.mem_map_of_mem hd, d.key_normal.trans hkey, hip⟩
  · rintro ⟨e, he, hkey, hip⟩
    obtain ⟨d, hd, rfl⟩ := List.mem_map.mp he
    exact ⟨d, hd, d.key_normal.symm.trans hkey, hip⟩

section Calls

variable {cfg : Settings} {io : Io} {s : XState} {r : DefaultRoute}

theorem owned_updateGwylist
    (hs : s.xdevlist.Pairwise fun a b => a.key < b.key) (d : GwyDeviceData) :
    Owned (updateGwylist cfg io d s) r ↔
      (r.device = d.key ∧ r.gwyip = d.gwyip.strip) ∨
        (r.device ≠ d.key ∧ Owned s r) := by
  obtain ⟨t, ht⟩ := Lists.of_sorted hs
  rw [(ht.updateGwylist cfg io d).owned_iff, ht.owned_iff]
  simp only [SortedTable.mem_insert, GwyDeviceData.key_normal]
  constructor
  · rintro ⟨e, rfl | ⟨he, hne⟩, hkey, hip⟩
    · exact Or.inl ⟨by rw [← hkey, GwyDeviceData.key_normal], hip.symm⟩
    · exact Or.inr ⟨hkey ▸ hne, e, he, hkey, hip⟩
  · rintro (⟨hkey, hip⟩ | ⟨hne, e, he, hkey, hip⟩)
    · exact ⟨d.normal, Or.inl rfl, by rw [hkey, GwyDeviceData.key_normal],
        hip.symm⟩
    · exact ⟨e, Or.inr ⟨he, hkey ▸ hne⟩, hkey, hip⟩

theorem owned_deleteGwyitem
    (hs : s.xdevlist.Pairwise fun a b => a.key < b.key) (sno : Option CStr) :
    Owned (deleteGwyitem cfg io sno s).1 r ↔
      Owned s r ∧ sno.map CStr.strip ≠ some r.device := by
  obtain ⟨t, ht⟩ := Lists.of_sorted hs
  rw [(ht.deleteGwyitem cfg io sno).owned_iff, ht.owned_iff]
  cases sno with
  | none => simp [eraseSno]
  | some n =>
      simp only [eraseSno, SortedTable.mem_erase, Option.map_some, ne_eq,
        Option.some.injEq]
      constructor
      · rintro ⟨e, ⟨he, hne⟩, hkey, hip⟩
        exact ⟨⟨e, he, hkey, hip⟩, fun h => hne (hkey.trans h.symm)⟩
      · rintro ⟨⟨e, he, hkey, hip⟩, hne⟩
        exact ⟨e, ⟨he, fun h => hne (h.symm.trans hkey)⟩, hkey, hip⟩

/-- A publication routes for listed records only, so what counts is what was
routed before it. -/
theorem routesOwned_iff_of_trace {tr : List Effect} {ds : List GwyDeviceData}
    (htrace : s.trace = tr ++ ds.map Effect.gwSetup)
    (hlisted : ∀ c ∈ ds, ∃ d ∈ s.xdevlist,
      d.key = c.key ∧ d.gwyip.strip = c.gwyip) :
    RoutesOwned s ↔ ∀ r ∈ routes tr, Owned s r := by
  rw [RoutesOwned, htrace]
  constructor
  · intro h r hr
    exact h r ((mem_routes_append_gwSetup ds).mpr (Or.inl hr))
  · intro h r hr
    rcases (mem_routes_append_gwSetup ds).mp hr with hr | ⟨c, hc, rfl⟩
    · exact h r hr
    · exact hlisted c hc

theorem routesOwned_updateGwylist
    (hs : s.xdevlist.Pairwise fun a b => a.key < b.key)
    (howned : RoutesOwned s) (d : GwyDeviceData) :
    RoutesOwned (updateGwylist cfg io d s) ↔ KeepsRouted s (.update io d) := by
  obtain ⟨ds, htrace, hlisted⟩ := updateGwylist_trace cfg io s d
  rw [routesOwned_iff_of_trace htrace hlisted]
  constructor
  · intro h c hc hkey hrouted
    by_contra hip
    have hkept := h _ ((mem_routes_updateEffects hip).mpr hrouted)
    rcases (owned_updateGwylist hs d).mp hkept with ⟨-, heq⟩ | ⟨hne, -⟩
    · exact hip heq
    · exact hne hkey
  · intro h r hr
    apply (owned_updateGwylist hs d).mpr
    have hrouted := routes_updateEffects_subset hr
    have hold := howned r hrouted
    by_cases hkey : r.device = d.key
    · -- The route of the entry that is replaced.
      obtain ⟨c, hc, hdevice, hip⟩ := hold
      have hroute : HasRoute s c := by rwa [HasRoute, hdevice, hip]
      exact Or.inl ⟨hkey, hip.symm.trans (h c hc (hdevice.trans hkey) hroute)⟩
    · exact Or.inr ⟨hkey, hold⟩

theorem routesOwned_deleteGwyitem
    (hs : s.xdevlist.Pairwise fun a b => a.key < b.key)
    (howned : RoutesOwned s) (sno : Option CStr) :
    RoutesOwned (deleteGwyitem cfg io sno s).1 ↔
      KeepsRouted s (.delete io sno) := by
  have hroutes : routes (deleteGwyitem cfg io sno s).1.trace =
      routes s.trace := by
    rw [deleteGwyitem_trace]
    split
    · exact routes_append_whiteList _
    · rw [List.append_nil]
  rw [RoutesOwned, hroutes]
  constructor
  · intro h c hc hfound hrouted
    have hkept := (owned_deleteGwyitem hs sno).mp (h _ hrouted)
    exact hkept.2 (by simpa [hasSno] using hfound)
  · intro h r hr
    have hold := howned r hr
    refine (owned_deleteGwyitem hs sno).mpr ⟨hold, fun hsno => ?_⟩
    obtain ⟨c, hc, hdevice, hip⟩ := hold
    refine h c hc ?_ ?_
    · simp [hasSno, hsno, hdevice]
    · rwa [HasRoute, hdevice, hip]

theorem routesOwned_sendDiscoveryResult (h : RoutesOwned s) :
    RoutesOwned (sendDiscoveryResult cfg io s) := by
  obtain ⟨ds, htrace, hlisted⟩ := sendDiscoveryResult_trace cfg io s
  apply (routesOwned_iff_of_trace htrace hlisted).mpr
  intro r hr
  obtain ⟨c, hc, hdevice, hip⟩ := h r hr
  have hmem := List.mem_map_of_mem (f := GwyDeviceData.normal) hc
  rw [← sendDiscoveryResult_normal cfg io s] at hmem
  obtain ⟨e, he, heq⟩ := List.mem_map.mp hmem
  refine ⟨e, he, ?_, ?_⟩
  · rw [← hdevice, ← c.key_normal, ← heq, GwyDeviceData.key_normal]
  · rw [← hip]
    exact congrArg GwyDeviceData.gwyip heq

end Calls

/-! ## Runs -/

/-- One call leaves the routes with their devices exactly if it removes no
entry with a route and gives none another address. -/
theorem routesOwned_devStep (cfg : Settings) {s : XState}
    (hs : s.xdevlist.Pairwise fun a b => a.key < b.key)
    (h : RoutesOwned s) (op : DevOp) :
    KeepsRouted s op ↔ RoutesOwned (devStep cfg s op) := by
  cases op with
  | update io d => exact (routesOwned_updateGwylist hs h d).symm
  | delete io sno => exact (routesOwned_deleteGwyitem hs h sno).symm
  | publish io =>
      exact iff_of_true trivial (routesOwned_sendDiscoveryResult h)

/-- **When every default route is a listed device's.** Along a run of updates,
deletes and publications every route belongs to a listed device with that
address, and the route of a gateway that is removed or replaced by an entry
with another address is deleted, exactly when no call removes or so replaces a
gateway with a route. -/
theorem routes_run_iff (cfg : Settings) (n : Option CStr) (ops : List DevOp) :
    EveryState (fun s op => some (devStep cfg s op)) RoutesOwned
        (startState n) ops ↔
      AllSteps (fun s op => some (devStep cfg s op)) KeepsRouted
        (startState n) ops := by
  refine everyState_iff
    (J := fun s => s.xdevlist.Pairwise fun a b => a.key < b.key)
    (fun s op s' hs hstep => ?_) (fun s op hs h => ?_) List.Pairwise.nil
    (fun r hr => ?_)
  · obtain rfl := Option.some.inj hstep
    exact devStep_sorted cfg hs op
  · rw [routesOwned_devStep cfg hs h op]
    simp
  · simp [startState, routes] at hr

/-- A gateway comes, is routed to, and goes. -/
def gatewayLeaves : List DevOp :=
  [.update quietIo { initGwydata with
      serialNum := .lit "A", isgateway := true, gwyip := .lit "10.0.0.2" },
    .delete quietIo (some (.lit "A"))]

/-- Its route stays. -/
theorem routes_run_fails :
    ¬ EveryState (fun s op => some (devStep routeSettings s op)) RoutesOwned
      (startState none) gatewayLeaves := by
  intro h
  have hrun : (runFrom (fun s op => some (devStep routeSettings s op))
      (startState none) gatewayLeaves).map
        (fun s => (s.xdevlist,
          decide (⟨.lit "A", .lit "10.0.0.2"⟩ ∈ routes s.trace))) =
      some ([], true) := by decide
  obtain ⟨s, hs, hfacts⟩ := Option.map_eq_some_iff.mp hrun
  obtain ⟨hempty, hrouted⟩ := Prod.mk.inj hfacts
  obtain ⟨d, hd, -⟩ :=
    h _ s List.prefix_rfl hs _ (of_decide_eq_true hrouted)
  rw [hempty] at hd
  cases hd

end Xupnp.Discovery
