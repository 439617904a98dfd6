import HushWire.RouteAgreement

namespace HushWire

/-!
# A setup of routes is all or nothing

Wherever a query or an addition fails, the routes that were recorded are the
entries that were added, each recorded under the key by which it is deleted.
Deleting them, the last one first, leaves the table as it was.
-/

/--
The deletion of a route names an entry: the prefix alone for an endpoint, the
prefix and the device for the others.
-/
def InstalledRoute.Names (route : InstalledRoute) (entry : HostRoute) : Prop :=
  entry.net.Same route.spec ∧
    (route.kind ≠ .endpointException → entry.device = route.tunName)

/--
The table is keyed by prefix: a prefix that is present is not added again, and
an entry that is named is deleted.
-/
structure Host.Keyed (host : Host) : Prop where
  present :
    ∀ table route,
      (∃ entry ∈ table, entry.net.Same route.net) →
      host.add table route ≠ .ok ()
  deletes :
    ∀ table route entry,
      entry ∈ table →
      route.Names entry →
      host.delete table route = .ok ()

/-- A manager that has installed nothing on a host with these routes. -/
def Installation.on
    (tunName : String)
    (initial : List HostRoute) :
    Installation where
  manager := { tunName, installed := [] }
  table := initial

/-- Routes record the entries that were added to an initial table. -/
inductive Recorded (initial : List HostRoute) :
    List InstalledRoute → List HostRoute → Prop where
  | nil :
      Recorded initial [] initial
  | snoc
      {installed : List InstalledRoute}
      {table : List HostRoute}
      {route : InstalledRoute}
      {entry : HostRoute} :
      Recorded initial installed table →
      route.Names entry →
      (∀ other ∈ table, ¬ other.net.Same entry.net) →
      Recorded initial (installed ++ [route]) (table ++ [entry])

namespace Recorded

variable
  {initial table : List HostRoute}
  {installed : List InstalledRoute}

/-- What was added follows the initial table, each entry under its record. -/
theorem exists_added (recorded : Recorded initial installed table) :
    ∃ added,
      table = initial ++ added ∧
        List.Forall₂ InstalledRoute.Names installed added := by
  induction recorded with
  | nil =>
      exact ⟨[], (List.append_nil _).symm, .nil⟩
  | @snoc _ _ _ entry _ names _ inductionHypothesis =>
      obtain ⟨added, isTable, each⟩ := inductionHypothesis
      refine ⟨added ++ [entry], ?_, List.rel_append each (.cons names .nil)⟩
      rw [isTable, List.append_assoc]

/-- Deleting what is recorded restores the initial table. -/
theorem cleanupRoutes
    {host : Host}
    (keyed : host.Keyed)
    (recorded : Recorded initial installed table) :
    RouteManager.cleanupRoutes host table installed = initial := by
  induction recorded with
  | nil =>
      rfl
  | @snoc installed table route entry _ names fresh inductionHypothesis =>
      have deleted : host.delete (table ++ [entry]) route = .ok () :=
        keyed.deletes _ _ entry (by simp) names
      have others :
          (table.filter fun other => !decide (other.net.Same route.spec)) =
            table := by
        refine List.filter_eq_self.mpr fun other member => ?_
        have differs : ¬ other.net.Same route.spec := fun same =>
          fresh other member
            ⟨same.1.trans names.1.1.symm, same.2.trans names.1.2.symm⟩
        simpa using differs
      have isDeleted :
          ([entry].filter fun other =>
              !decide (other.net.Same route.spec)) =
            [] := by
        simp [names.1]
      unfold RouteManager.cleanupRoutes at inductionHypothesis ⊢
      rw [List.foldr_append, List.foldr_cons, List.foldr_nil, deleted]
      simp only [List.filter_append, others, isDeleted, List.append_nil]
      exact inductionHypothesis

end Recorded

section Setup

variable {host : Host}

/-- An addition that succeeds is recorded under the key of its deletion. -/
theorem Addition.perform_push
    {state next : Installation}
    {addition : Addition}
    (keyed : host.Keyed)
    (performed : addition.perform host state = .ok next) :
    ∃ entry route,
      next = state.push entry route ∧
        entry.net = addition.net ∧
        route.Names entry ∧
        ∀ other ∈ state.table, ¬ other.net.Same entry.net := by
  have pushed {entry route context}
      (added : state.add host entry route context = .ok next) :
      next = state.push entry route ∧
        ∀ other ∈ state.table, ¬ other.net.Same entry.net := by
    unfold Installation.add at added
    cases outcome : host.add state.table entry with
    | error source =>
        rw [outcome] at added
        cases added
    | ok =>
        rw [outcome] at added
        refine ⟨(Except.ok.inj added).symm, fun other member same => ?_⟩
        exact keyed.present _ _ ⟨other, member, same⟩ outcome
  cases addition with
  | prefixException net =>
      simp only [Addition.perform, Installation.addPrefixException]
        at performed
      split at performed
      · cases performed
      · obtain ⟨isNext, fresh⟩ := pushed performed
        exact ⟨_, _, isNext, rfl, ⟨⟨rfl, rfl⟩, fun _ => rfl⟩, fresh⟩
      · obtain ⟨isNext, fresh⟩ := pushed performed
        exact ⟨_, _, isNext, rfl, ⟨⟨rfl, rfl⟩, fun _ => rfl⟩, fresh⟩
  | endpointException ip =>
      simp only [Addition.perform, Installation.addEndpointException]
        at performed
      split at performed
      · obtain ⟨isNext, fresh⟩ := pushed performed
        exact ⟨_, _, isNext, rfl, ⟨⟨rfl, rfl⟩, fun other => absurd rfl other⟩,
          fresh⟩
      · obtain ⟨isNext, fresh⟩ := pushed performed
        exact ⟨_, _, isNext, rfl, ⟨⟨rfl, rfl⟩, fun other => absurd rfl other⟩,
          fresh⟩
      · cases performed
  | tunRoute net =>
      obtain ⟨isNext, fresh⟩ := pushed performed
      exact ⟨_, _, isNext, rfl, ⟨⟨rfl, rfl⟩, fun _ => rfl⟩, fresh⟩

namespace RouteManager

/-- The loops stop with every entry they added recorded. -/
theorem setupInner_recorded
    {state final : Installation}
    {initial : List HostRoute}
    {additions : List Addition}
    {result : Except RouteError Unit}
    (keyed : host.Keyed)
    (ran : setupInner host state additions = (result, final))
    (recorded : Recorded initial state.manager.installed state.table) :
    Recorded initial final.manager.installed final.table := by
  induction additions generalizing state with
  | nil =>
      cases ran
      exact recorded
  | cons addition rest inductionHypothesis =>
      unfold setupInner at ran
      cases performed : addition.perform host state with
      | error error =>
          rw [performed] at ran
          cases ran
          exact recorded
      | ok next =>
          rw [performed] at ran
          obtain ⟨entry, route, rfl, _, names, fresh⟩ :=
            Addition.perform_push keyed performed
          exact inductionHypothesis ran (recorded.snoc names fresh)

/-- Loops that run to their end have added every prefix. -/
theorem setupInner_nets
    {state final : Installation}
    {additions : List Addition}
    (keyed : host.Keyed)
    (done : setupInner host state additions = (.ok (), final)) :
    final.table.map HostRoute.net =
      state.table.map HostRoute.net ++ additions.map Addition.net := by
  induction additions generalizing state with
  | nil =>
      cases done
      exact (List.append_nil _).symm
  | cons addition rest inductionHypothesis =>
      unfold setupInner at done
      cases performed : addition.perform host state with
      | error error =>
          rw [performed] at done
          cases done
      | ok next =>
          rw [performed] at done
          obtain ⟨entry, route, rfl, isNet, _⟩ :=
            Addition.perform_push keyed performed
          rw [inductionHypothesis done]
          simp [Installation.push, isNet]

/--
A setup that fails leaves the host's routes as they were and nothing recorded.
After one that succeeds the records are exactly the routes that were added,
and cleaning them up restores the host's routes.
-/
theorem setup_all_or_nothing
    (keyed : host.Keyed)
    (tunName : String)
    (initial : List HostRoute)
    (router : Router) :
    (∀ error final,
      setup host (.on tunName initial) router = (.error error, final) →
      final.table = initial ∧ final.manager.installed = []) ∧
    ∀ final,
      setup host (.on tunName initial) router = (.ok (), final) →
      ∃ added,
        final.table = initial ++ added ∧
          added.map HostRoute.net = router.additions.map Addition.net ∧
          List.Forall₂ InstalledRoute.Names final.manager.installed added ∧
          cleanupRoutes host final.table final.manager.installed =
            initial := by
  have recordedBy {result final}
      (ran :
        setupInner host (.on tunName initial) router.additions =
          (result, final)) :
      Recorded initial final.manager.installed final.table :=
    setupInner_recorded keyed ran .nil
  unfold setup
  cases ran :
      setupInner host (.on tunName initial) router.additions with
  | mk result reached =>
      have recorded := recordedBy ran
      cases result with
      | error error =>
          constructor
          · rintro _ final ⟨⟩
            exact ⟨recorded.cleanupRoutes keyed, rfl⟩
          · rintro final ⟨⟩
      | ok =>
          constructor
          · rintro _ final ⟨⟩
          · rintro final ⟨⟩
            obtain ⟨added, isTable, each⟩ := recorded.exists_added
            refine ⟨added, isTable, ?_, each, recorded.cleanupRoutes keyed⟩
            have nets := setupInner_nets keyed ran
            rw [isTable, List.map_append] at nets
            exact List.append_cancel_left nets

end RouteManager

end Setup

namespace RouteExample

theorem host_keyed : host.Keyed where
  present := host_lawful.present
  deletes := fun _ _ _ _ _ => rfl

/-- A host on which the fourth route of the table cannot be added. -/
def failingHost : Host where
  add := fun table route =>
    if table.length = 3 then
      .error "ip route add failed"
    else
      host.add table route
  delete := fun _ _ => .ok ()
  getRouteInfo := host.getRouteInfo

def defaultRoute : HostRoute where
  net := ⟨0x00000000, 0⟩
  gateway := some "192.0.2.1"
  device := "en0"

theorem failingHost_keyed : failingHost.Keyed where
  present := by
    intro table route present
    by_cases third : table.length = 3
    · simp [failingHost, third]
    · simpa [failingHost, third] using host_lawful.present table route present
  deletes := fun _ _ _ _ _ => rfl

end RouteExample

open RouteExample in
/-- An addition fails, and the default route is all that is left. -/
theorem RouteManager.setup_all_or_nothing_example :
    ((setup failingHost (.on "utun10" [defaultRoute]) router).1.toOption =
        none) ∧
      (setup failingHost (.on "utun10" [defaultRoute]) router).2.table =
        [defaultRoute] := by
  have restores :=
    (setup_all_or_nothing failingHost_keyed "utun10" [defaultRoute] router).1
  have fails :
      (setup failingHost (.on "utun10" [defaultRoute]) router).1.toOption =
        none := by
    decide +kernel
  refine ⟨fails, ?_⟩
  rcases ran : setup failingHost (.on "utun10" [defaultRoute]) router with
    ⟨error | done, final⟩
  · exact (restores error final ran).1
  · rw [ran] at fails
    cases fails

end HushWire
