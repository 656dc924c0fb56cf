import Assessment.Store

/-!
# Views of a store

A store is seen through its identifiers and through `Store.get?`, which finds by the
index what a search through the list would find.  The lemmas here say what updates,
resets and declarations do to these views, so that nothing else has to look at the list
and the index behind them.
-/

namespace Assessment

namespace Store

variable {store : Store} {identifier : String} {v : Variable}

theorem position?_eq_idxOf? (store : Store) (identifier : String) :
    store.position? identifier = store.identifiers.idxOf? identifier :=
  store.index.leads identifier

theorem identifier_at {position : Nat} (found : store.position? identifier = some position) :
    store.identifiers[position]? = some identifier := by
  rw [position?_eq_idxOf?] at found
  obtain ⟨inside, same, _⟩ := List.idxOf?_eq_some_iff.mp found
  exact List.getElem?_eq_some_iff.mpr ⟨inside, same⟩

theorem lt_of_position? {position : Nat} (found : store.position? identifier = some position) :
    position < store.declared.length := by
  obtain ⟨inside, _⟩ := List.getElem?_eq_some_iff.mp (identifier_at found)
  simpa [identifiers] using inside

/-- The variable at the position of an identifier is the first one that has it. -/
theorem get?_eq_find? (store : Store) (identifier : String) :
    store.get? identifier = store.declared.find? fun v => v.identifier == identifier := by
  rw [get?, position?_eq_idxOf?, identifiers]
  induction store.declared with
  | nil => rfl
  | cons first rest induction =>
      rw [List.map_cons, List.idxOf?_cons, List.find?_cons]
      by_cases here : first.identifier = identifier
      · simp [here]
      · have missed : (first.identifier == identifier) = false := by simpa using here
        simpa [missed, Option.bind_map, Function.comp_def] using induction

theorem mem_of_get? (found : store.get? identifier = some v) : v ∈ store.declared := by
  rw [get?_eq_find?] at found
  exact List.mem_of_find?_eq_some found

theorem identifier_of_get? (found : store.get? identifier = some v) :
    v.identifier = identifier := by
  rw [get?_eq_find?] at found
  simpa using List.find?_some found

theorem isSome_get?_iff : (store.get? identifier).isSome ↔ identifier ∈ store.identifiers := by
  simp [get?_eq_find?, identifiers, List.find?_isSome]

/-- An identifier leads to a variable exactly if it is one of those of the store. -/
theorem get?_eq_none_iff : store.get? identifier = none ↔ identifier ∉ store.identifiers := by
  rw [← isSome_get?_iff]
  simp

/-- In a store without repetitions, every variable is found under its identifier. -/
theorem Distinct.get?_of_mem (distinct : store.Distinct) (member : v ∈ store.declared) :
    store.get? v.identifier = some v := by
  rw [get?_eq_find?]
  unfold Distinct identifiers at distinct
  revert distinct member
  generalize store.declared = declared
  intro distinct member
  induction declared with
  | nil => simp at member
  | cons first rest induction =>
      have names := List.nodup_cons.mp distinct
      rcases List.mem_cons.mp member with rfl | later
      · simp
      · have different : first.identifier ≠ v.identifier := by
          intro same
          exact names.1 (List.mem_map.mpr ⟨v, later, same.symm⟩)
        simpa [different] using induction names.2 later

theorem Distinct.get?_eq_some_iff (distinct : store.Distinct) :
    store.get? identifier = some v ↔ v ∈ store.declared ∧ v.identifier = identifier := by
  constructor
  · intro found
    exact ⟨mem_of_get? found, identifier_of_get? found⟩
  · rintro ⟨member, rfl⟩
    exact distinct.get?_of_mem member

/-- Without repetitions, the index leads to wherever an identifier stands. -/
theorem Distinct.position?_eq_some_iff (distinct : store.Distinct) {position : Nat} :
    store.position? identifier = some position ↔
      store.identifiers[position]? = some identifier := by
  refine ⟨identifier_at, fun there => ?_⟩
  obtain ⟨inside, same⟩ := List.getElem?_eq_some_iff.mp there
  rw [position?_eq_idxOf?, List.idxOf?_eq_some_iff]
  refine ⟨inside, same, fun earlier before sameEarlier => ?_⟩
  exact List.pairwise_iff_getElem.mp distinct earlier position (by omega) inside before
    (sameEarlier.trans same.symm)

/-- Stores without repetitions are equal if all views of them are. -/
theorem Distinct.eq_of_views {other : Store} (distinct : store.Distinct)
    (identifiers : other.identifiers = store.identifiers)
    (lookups : ∀ identifier, other.get? identifier = store.get? identifier) :
    other = store := by
  have otherDistinct : other.Distinct := by
    unfold Distinct
    rw [identifiers]
    exact distinct
  refine eq_of_declared ?_
  have lengths : other.declared.length = store.declared.length := by
    simpa [Store.identifiers] using congrArg List.length identifiers
  refine List.ext_getElem lengths fun position inRight inLeft => ?_
  have name : other.declared[position].identifier = store.declared[position].identifier := by
    have := congrArg (·[position]?) identifiers
    simpa [Store.identifiers, inLeft, inRight] using this
  have foundRight := otherDistinct.get?_of_mem (List.getElem_mem inRight)
  have foundLeft := distinct.get?_of_mem (List.getElem_mem inLeft)
  rw [lookups, name] at foundRight
  exact Option.some.inj (foundRight.symm.trans foundLeft)

/-! ## Updates and resets -/

theorem declared_update {change : Variable → Variable}
    (keeps : ∀ v, (change v).identifier = v.identifier) :
    (store.update identifier change).declared =
      match store.position? identifier with
      | some position => store.declared.modify position change
      | none => store.declared := by
  have unchanged : alter change = change := funext fun v => by rw [alter, ← keeps]
  unfold update
  cases store.position? identifier with
  | none => rfl
  | some position => exact congrArg (store.declared.modify position) unchanged

/-- A change that a view of the variables does not see is not seen in the store. -/
theorem map_declared_update {α : Type} {view : Variable → α} {change : Variable → Variable}
    (keeps : ∀ v, (change v).identifier = v.identifier)
    (unseen : ∀ v, view (change v) = view v) :
    (store.update identifier change).declared.map view = store.declared.map view := by
  rw [declared_update keeps]
  cases store.position? identifier with
  | none => rfl
  | some position => exact map_modify unseen store.declared position

/-- Only the variable that the identifier leads to is changed. -/
theorem mem_update {change : Variable → Variable}
    (keeps : ∀ v, (change v).identifier = v.identifier)
    (member : v ∈ (store.update identifier change).declared) :
    v ∈ store.declared ∨ ∃ old, store.get? identifier = some old ∧ v = change old := by
  rw [declared_update keeps] at member
  cases located : store.position? identifier with
  | none =>
      rw [located] at member
      exact .inl member
  | some position =>
      rw [located] at member
      obtain ⟨other, there⟩ := List.mem_iff_getElem?.mp member
      rw [List.getElem?_modify] at there
      obtain ⟨old, oldThere, rfl⟩ := Option.map_eq_some_iff.mp there
      by_cases here : position = other
      · subst here
        rw [if_pos rfl]
        exact .inr ⟨old, by rw [get?, located, Option.bind_some, oldThere], rfl⟩
      · rw [if_neg here]
        exact .inl (List.mem_of_getElem? oldThere)

theorem identifiers_update {change : Variable → Variable}
    (keeps : ∀ v, (change v).identifier = v.identifier) :
    (store.update identifier change).identifiers = store.identifiers :=
  map_declared_update keeps keeps

theorem position?_update {change : Variable → Variable} (wanted : String) :
    (store.update identifier change).position? wanted = store.position? wanted := by
  unfold update
  cases store.position? identifier <;> rfl

/-- Different identifiers have different positions. -/
theorem position_ne {other : String} {position otherPosition : Nat}
    (found : store.position? identifier = some position)
    (otherFound : store.position? other = some otherPosition) (different : identifier ≠ other) :
    position ≠ otherPosition := by
  rintro rfl
  exact different (Option.some.inj ((identifier_at found).symm.trans (identifier_at otherFound)))

theorem get?_update {change : Variable → Variable}
    (keeps : ∀ v, (change v).identifier = v.identifier) (wanted : String) :
    (store.update identifier change).get? wanted =
      if wanted = identifier then (store.get? identifier).map change
      else store.get? wanted := by
  rw [get?, get?, get?, position?_update, declared_update keeps]
  by_cases asked : wanted = identifier
  · subst asked
    cases store.position? wanted <;> simp [List.getElem?_modify]
  · cases there : store.position? identifier with
    | none => simp [asked]
    | some position =>
        cases wantedThere : store.position? wanted with
        | none => simp [asked]
        | some other =>
            have elsewhere := position_ne there wantedThere (Ne.symm asked)
            simp [asked, List.getElem?_modify, elsewhere]

theorem update_comm {other : String} {change otherChange : Variable → Variable}
    (keeps : ∀ v, (change v).identifier = v.identifier)
    (otherKeeps : ∀ v, (otherChange v).identifier = v.identifier)
    (different : identifier ≠ other) :
    (store.update identifier change).update other otherChange =
      (store.update other otherChange).update identifier change := by
  refine eq_of_declared ?_
  simp only [declared_update keeps, declared_update otherKeeps, position?_update]
  cases there : store.position? identifier with
  | none => rfl
  | some position =>
      cases otherThere : store.position? other with
      | none => rfl
      | some otherPosition =>
          exact List.modify_modify_ne change otherChange _
            (position_ne there otherThere different)

theorem identifiers_resetWhere (condition : Variable → Bool) :
    (store.resetWhere condition).identifiers = store.identifiers :=
  store.identifiers_map_reset condition

theorem get?_resetWhere (condition : Variable → Bool) (identifier : String) :
    (store.resetWhere condition).get? identifier =
      (store.get? identifier).map fun v => if condition v then v.reset else v := by
  have same : ∀ v : Variable,
      (if condition v then v.reset else v).identifier = v.identifier := by
    intro v
    by_cases wanted : condition v <;> simp [wanted, Variable.reset]
  simp only [get?_eq_find?, resetWhere, List.find?_map]
  congr 2
  funext v
  simp [same]

/-! ## Declarations -/

theorem mem_declare {declaration : Variable}
    (member : v ∈ (store.declare declaration).declared) :
    v = declaration ∨ v ∈ store.declared := by
  unfold declare at member
  split at member
  next => exact (List.mem_or_eq_of_mem_set member).symm
  next =>
    rcases List.mem_append.mp member with old | new
    · exact .inr old
    · exact .inl (List.mem_singleton.mp new)

/-- Only a new identifier is added. -/
theorem identifiers_declare (store : Store) (declaration : Variable) :
    (store.declare declaration).identifiers =
      if declaration.identifier ∈ store.identifiers then store.identifiers
      else store.identifiers ++ [declaration.identifier] := by
  unfold declare
  split
  next position found =>
    have old : declaration.identifier ∈ store.identifiers :=
      List.mem_of_getElem? (identifier_at found)
    rw [if_pos old]
    exact identifiers_set found
  next found =>
    have new : declaration.identifier ∉ store.identifiers := by
      rwa [position?_eq_idxOf?, List.idxOf?_eq_none_iff] at found
    rw [if_neg new]
    exact List.map_append

theorem get?_declare (store : Store) (declaration : Variable) (wanted : String) :
    (store.declare declaration).get? wanted =
      if wanted = declaration.identifier then some declaration else store.get? wanted := by
  unfold declare
  split
  next position found =>
    change (store.position? wanted).bind
      (fun other => (store.declared.set position declaration)[other]?) = _
    by_cases asked : wanted = declaration.identifier
    · subst asked
      rw [if_pos rfl, found]
      exact List.getElem?_set_self (lt_of_position? found)
    · rw [if_neg asked, get?]
      cases there : store.position? wanted with
      | none => rfl
      | some other => exact List.getElem?_set_ne (position_ne found there (Ne.symm asked))
  next found =>
    change ((store.index.positions.insert declaration.identifier _).get? wanted).bind
      (fun other => (store.declared ++ [declaration])[other]?) = _
    rw [Dictionary.get?_insert]
    by_cases asked : wanted = declaration.identifier
    · subst asked
      simp
    · rw [if_neg asked, if_neg (Ne.symm asked), get?]
      change (store.position? wanted).bind _ = _
      cases there : store.position? wanted with
      | none => rfl
      | some other => exact List.getElem?_append_left (lt_of_position? there)

theorem distinct_declare (distinct : store.Distinct) (declaration : Variable) :
    (store.declare declaration).Distinct := by
  unfold Distinct at distinct ⊢
  rw [identifiers_declare]
  split
  next => exact distinct
  next new =>
    refine List.nodup_append.mpr ⟨distinct, by simp, ?_⟩
    rintro old oldMember other otherMember rfl
    rw [List.mem_singleton.mp otherMember] at oldMember
    exact new oldMember

theorem distinct_ofList (declarations : List Variable) : (ofList declarations).Distinct := by
  have declared : ∀ store : Store, store.Distinct →
      (declarations.foldl declare store).Distinct := by
    induction declarations with
    | nil => exact fun _ distinct => distinct
    | cons first rest induction =>
        intro store distinct
        exact induction _ (distinct_declare distinct first)
  exact declared empty List.nodup_nil

theorem mem_ofList {declarations : List Variable}
    (member : v ∈ (ofList declarations).declared) : v ∈ declarations := by
  have declared : ∀ store : Store, v ∈ (declarations.foldl declare store).declared →
      v ∈ declarations ∨ v ∈ store.declared := by
    clear member
    induction declarations with
    | nil => exact fun _ member => .inr member
    | cons first rest induction =>
        intro store member
        rcases induction (store.declare first) member with later | earlier
        · exact .inl (List.mem_cons_of_mem _ later)
        · rcases mem_declare earlier with rfl | old
          · exact .inl List.mem_cons_self
          · exact .inr old
  rcases declared empty member with wanted | absent
  · exact wanted
  · cases absent

end Store

end Assessment
