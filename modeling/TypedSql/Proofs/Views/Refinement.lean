import TypedSql.Proofs.Views.Families
import TypedSql.Proofs.Views.Store

namespace TypedSql

variable {τ : Type}

/-- What an operation does to the store of its handle. -/
def Operation.change : Operation τ → Store → Store
  | .storeJoin join, store => store.insert join.output (.join join)
  | .storeProcedure output procedure, store => store.insert output (.procedure procedure)
  | .remove output, store => store.remove output
  | .contains _, store | .definition _, store | .count, store | .isEmpty, store
  | .render _, store | .execute _ _ _, store => store

theorem Store.Distinct.change {store : Store} (distinct : store.Distinct)
    (operation : Operation τ) : (operation.change store).Distinct := by
  cases operation with
  | storeJoin | storeProcedure => exact distinct.insert _ _
  | remove => exact distinct.remove _
  | contains | definition | count | isEmpty | render | execute => exact distinct

namespace Views

variable {views : Views} {handle : Handle}

theorem perform_stores (views : Views) (handle : Handle) (operation : Operation τ) :
    (views.perform handle operation).2.stores =
      views.stores.modify handle.store operation.change := by
  cases operation with
  | storeJoin | storeProcedure | remove => rfl
  | contains | definition | count | isEmpty | render | execute =>
    exact (List.modify_id _ _).symm

/-- A handle answers as the map of its store does. -/
theorem perform_answers (distinct : (views.store handle).Distinct) (operation : Operation τ) :
    ViewMap.Answers handle.dialect (views.store handle).get? operation
      (views.perform handle operation).1 (operation.change (views.store handle)).get? := by
  cases operation with
  | storeJoin join =>
    rw [Operation.change, Store.get?_insert]
    exact .storeJoin join
  | storeProcedure output procedure =>
    rw [Operation.change, Store.get?_insert]
    exact .storeProcedure output procedure
  | remove output =>
    rw [Operation.change, Store.get?_remove]
    exact .remove output
  | contains output => exact .contains output
  | definition output => exact .definition output
  | count =>
    obtain ⟨types, stored, size⟩ := Store.size_eq_card distinct
    rw [perform, Views.size, size]
    exact .count types stored
  | isEmpty => exact .isEmpty _ (beq_iff_eq.trans Store.size_eq_zero_iff)
  | render output =>
    cases found : views.view? handle output with
    | none =>
      rw [perform, render_missing found]
      exact .renderMissing found
    | some stored =>
      rw [perform, render_found found]
      exact .render found
  | execute output connection transaction =>
    exact .execute (views.execute_execution handle output connection transaction)

end Views

namespace Session

variable {session next : Session} {command : Command τ} {answer : Answer τ}

/-- The families that the stores stand for. -/
def families (session : Session) : Families :=
  ⟨session.handles.map fun handle => ⟨handle.dialect, handle.store⟩,
    fun family => (session.views.stores[family]?.getD .empty).get?⟩

structure Sound (session : Session) : Prop where
  handles : ∀ handle ∈ session.handles, handle.store < session.views.stores.length
  stores : ∀ store ∈ session.views.stores, store.Distinct

theorem sound_start : start.Sound :=
  ⟨nofun, nofun⟩

theorem member_of_handle {number : Nat} {handle : Handle}
    (opened : session.handles[number]? = some handle) :
    session.families.members[number]? = some ⟨handle.dialect, handle.store⟩ := by
  rw [families, List.getElem?_map, opened]
  rfl

theorem found_stores (session : Session) (dialect : Dialect) :
    (session.found dialect).views.stores = session.views.stores ++ [Store.empty] :=
  rfl

theorem found_handles (session : Session) (dialect : Dialect) :
    (session.found dialect).handles =
      session.handles ++ [⟨dialect, session.views.stores.length⟩] :=
  rfl

theorem sound_found (sound : session.Sound) (dialect : Dialect) :
    (session.found dialect).Sound := by
  constructor
  · intro handle member
    rw [found_handles] at member
    rw [found_stores, List.length_append, List.length_singleton]
    rcases List.mem_append.mp member with before | last
    · exact Nat.lt_succ_of_lt (sound.handles handle before)
    · rw [List.mem_singleton.mp last]
      exact Nat.lt_succ_self _
  · intro store member
    rw [found_stores] at member
    rcases List.mem_append.mp member with before | last
    · exact sound.stores store before
    · rw [List.mem_singleton.mp last]
      exact Store.distinct_empty

theorem families_found (session : Session) (dialect : Dialect) :
    (session.found dialect).families =
      session.families.found dialect session.views.stores.length := by
  have members : (session.found dialect).families.members =
      session.families.members ++ [⟨dialect, session.views.stores.length⟩] :=
    List.map_append
  have maps : (session.found dialect).families.maps = Function.update session.families.maps
      session.views.stores.length fun _ => none := by
    funext family
    simp only [families, found_stores]
    by_cases new : family = session.views.stores.length
    · rw [new, Function.update_self, List.getElem?_concat_length]
      rfl
    · rw [Function.update_of_ne new]
      by_cases old : family < session.views.stores.length
      · rw [List.getElem?_append_left old]
      · -- No store is there, neither before nor after, and none reads as an empty one.
        have beyond : (session.views.stores ++ [Store.empty]).length ≤ family := by
          rw [List.length_append, List.length_singleton]
          omega
        rw [List.getElem?_eq_none beyond, List.getElem?_eq_none (Nat.le_of_not_lt old)]
  rw [Families.found, ← maps, ← members]

theorem fresh_family (sound : session.Sound) :
    ∀ member ∈ session.families.members, member.family ≠ session.views.stores.length := by
  intro member listed
  obtain ⟨handle, opened, rfl⟩ := List.mem_map.mp listed
  exact Nat.ne_of_lt (sound.handles handle opened)

theorem performed_stores (session : Session) (handle : Handle) (operation : Operation τ) :
    (session.performed handle operation).views.stores =
      session.views.stores.modify handle.store operation.change :=
  Views.perform_stores session.views handle operation

theorem sound_performed (sound : session.Sound) (handle : Handle) (operation : Operation τ) :
    (session.performed handle operation).Sound := by
  constructor
  · intro other member
    rw [performed_stores, List.length_modify]
    exact sound.handles other member
  · intro store member
    rw [performed_stores] at member
    obtain ⟨place, found⟩ := List.mem_iff_getElem?.mp member
    rw [List.getElem?_modify] at found
    obtain ⟨before, listed, rfl⟩ := Option.map_eq_some_iff.mp found
    have distinct := sound.stores before (List.mem_of_getElem? listed)
    split
    · exact distinct.change operation
    · exact distinct

theorem families_performed {handle : Handle} (inRange : handle.store < session.views.stores.length)
    (operation : Operation τ) :
    (session.performed handle operation).families =
      { session.families with
        maps := Function.update session.families.maps handle.store
          (operation.change (session.views.store handle)).get? } := by
  have maps : (session.performed handle operation).families.maps =
      Function.update session.families.maps handle.store
        (operation.change (session.views.store handle)).get? := by
    funext family
    simp only [families, performed_stores, List.getElem?_modify]
    by_cases own : family = handle.store
    · rw [own, Function.update_self, Views.store, List.getElem?_eq_getElem inRange]
      simp
    · rw [Function.update_of_ne own]
      simp [Ne.symm own]
  rw [← maps]
  rfl

theorem families_cloned (session : Session) (handle : Handle) :
    ({ session with handles := session.handles ++ [handle] } : Session).families =
      { session.families with
        members := session.families.members ++ [⟨handle.dialect, handle.store⟩] } := by
  simp [families]

/-- Each step of a session is one of the families that it stands for. -/
theorem step_simulates (sound : session.Sound)
    (stepped : session.step command = some (answer, next)) :
    next.Sound ∧ Families.Step session.families command answer next.families := by
  cases command with
  | create dialect =>
    cases stepped
    refine ⟨sound_found sound dialect, ?_⟩
    rw [families_found]
    exact .create dialect (fresh_family sound)
  | configure settings =>
    cases stepped
    refine ⟨sound_found sound settings.dialect, ?_⟩
    rw [families_found]
    exact .configure settings (fresh_family sound)
  | clone number =>
    obtain ⟨handle, opened, rfl, rfl⟩ := step_clone_cases stepped
    refine ⟨⟨?_, sound.stores⟩, ?_⟩
    · intro other member
      rcases List.mem_append.mp member with before | last
      · exact sound.handles other before
      · rw [List.mem_singleton.mp last]
        exact sound.handles handle (List.mem_of_getElem? opened)
    · rw [families_cloned]
      exact .clone (member_of_handle opened)
  | use number operation =>
    obtain ⟨handle, opened, rfl, rfl⟩ := step_use_cases stepped
    have inRange := sound.handles handle (List.mem_of_getElem? opened)
    have distinct : (session.views.store handle).Distinct := by
      rw [Views.store, List.getElem?_eq_getElem inRange]
      exact sound.stores _ (List.getElem_mem inRange)
    refine ⟨sound_performed sound handle operation, ?_⟩
    rw [families_performed inRange]
    exact .use (member_of_handle opened) (Views.perform_answers distinct operation)

theorem run_simulates {commands : List (Command τ)} (sound : session.Sound)
    (grounded : Grounded session.handles.length commands) :
    ∃ answers last, session.run commands = some (answers, last) ∧ last.Sound ∧
      Families.Runs session.families commands answers last.families := by
  induction commands generalizing session with
  | nil => exact ⟨[], session, rfl, sound, .nil _⟩
  | cons command rest ih =>
    obtain ⟨names, grounded⟩ := grounded
    obtain ⟨answer, next, stepped⟩ := step_of_names names
    obtain ⟨added, handles, opened⟩ := step_handles stepped
    obtain ⟨sound, step⟩ := step_simulates sound stepped
    rw [← opened, ← List.length_append, ← handles] at grounded
    obtain ⟨answers, last, ran, sound, runs⟩ := ih sound grounded
    refine ⟨answer :: answers, last, ?_, sound, .cons step runs⟩
    simp [run, stepped, ran]

/-- Whatever is done with any number of handles, each family of handles that come from one another
by cloning shares one map of views, which answers as what was last stored in it says, and no step
changes an answer about another family or another output type. -/
theorem run_refines {commands : List (Command τ)} (grounded : Grounded 0 commands) :
    ∃ answers session families, start.run commands = some (answers, session) ∧
      Families.Runs .start commands answers families ∧
      ∀ (change query : Command τ) (answer told : Answer τ) (next after : Session),
        families.Apart change query → session.step change = some (answer, next) →
        session.step query = some (told, after) →
        ∃ later, next.step query = some (told, later) := by
  obtain ⟨answers, session, ran, sound, runs⟩ := run_simulates sound_start grounded
  refine ⟨answers, session, session.families, ran, runs, ?_⟩
  intro change query answer told next after apart changed asked
  obtain ⟨soundNext, step⟩ := step_simulates sound changed
  obtain ⟨added, handles, _⟩ := step_handles changed
  have names : query.Names next.handles.length := by
    refine (names_of_step asked).mono ?_
    rw [handles, List.length_append]
    exact Nat.le_add_right _ _
  obtain ⟨told', later, askedLater⟩ := step_of_names names
  have same := step.answers_apart apart (step_simulates sound asked).2
    (step_simulates soundNext askedLater).2
  exact ⟨later, by rw [askedLater, same]⟩

end Session

def Table.current : Table :=
  ⟨"shop.order", "Order", []⟩

/-- Another output type of the same name. -/
def Table.archived : Table :=
  ⟨"archive.order", "Order", []⟩

def Join.blank : Join :=
  ⟨.current, .empty, [], ⟨[]⟩, .empty, []⟩

/-- Two families, one of them with two handles. -/
def Command.interleaved : List (Command Unit) :=
  [.create .postgres, .create .sqlServer, .clone 0,
    .use 0 (.storeProcedure .current (.named "GetOrders")),
    .use 2 (.storeProcedure .archived (.named "GetArchive")), .use 1 (.contains .current),
    .use 2 (.storeJoin .blank), .use 0 .count, .use 0 (.remove .current), .use 2 .count,
    .use 2 (.render .archived), .use 1 (.render .current)]

def Answer.interleaved : List (Answer Unit) :=
  [.opened .postgres, .opened .sqlServer, .opened .postgres, .view none, .view none, .flag false,
    .view (some (.procedure (.named "GetOrders"))), .count 2, .view (some (.join .blank)),
    .count 1, .rendered (.ok ⟨"SELECT * FROM GetArchive()", .empty, .postgres⟩),
    .rendered (.error (.viewNotFound "Order"))]

theorem Session.run_refines_interleaved :
    Grounded 0 Command.interleaved ∧ ∃ session families,
      Session.start.run Command.interleaved = some (Answer.interleaved, session) ∧
      Families.Runs .start Command.interleaved Answer.interleaved families := by
  have grounded : Grounded 0 Command.interleaved := by
    simp [Command.interleaved, Grounded, Command.Names, Command.opens]
  have told : (Session.start.run Command.interleaved).map Prod.fst = some Answer.interleaved := rfl
  obtain ⟨answers, session, families, ran, runs, _⟩ := run_refines grounded
  rw [ran] at told
  cases told
  exact ⟨grounded, session, families, ran, runs⟩

end TypedSql
