import Assessment.Json.Reader

/-!
# Keys of objects that are read

Objects come from the reader with their keys in increasing order, at whatever depth they stand,
so none of them has a key twice.  This is an invariant of the reader's state: what it holds,
whole or in part, consists of such values.
-/

namespace Assessment.Json

/-- Objects have each key once. -/
def KeysDistinct : Json → Prop
  | .object fields => (fields.map (·.1)).Nodup
  | _ => True

/-- The keys of all objects increase. -/
inductive Ordered : Json → Prop where
  | null : Ordered .null
  | bool (value : Bool) : Ordered (.bool value)
  | integer (value : Int) : Ordered (.integer value)
  | float (value : Float) : Ordered (.float value)
  | string (value : String) : Ordered (.string value)
  | array {items : List Json} : (∀ item ∈ items, Ordered item) → Ordered (.array items)
  | object {fields : List (String × Json)} :
      KeysIncrease fields → (∀ field ∈ fields, Ordered field.2) → Ordered (.object fields)

variable {json value : Json} {fields : List (String × Json)}

theorem Ordered.keysDistinct (ordered : json.Ordered) : json.KeysDistinct := by
  cases ordered with
  | object increase _ =>
      apply List.pairwise_map.mpr
      exact increase.imp fun before => String.ne_of_lt before
  | _ => trivial

/-- Fields are put at their places one after another. -/
theorem ordered_ofFields (each : ∀ field ∈ fields, field.2.Ordered) :
    (ofFields fields).Ordered := by
  have places : ∀ sorted : List (String × Json), (Json.object sorted).Ordered →
      (Json.object (fields.foldl (fun sorted field => insertEntry field.1 field.2 sorted)
        sorted)).Ordered := by
    induction fields with
    | nil => exact fun _ ordered => ordered
    | cons field fields induction =>
        obtain ⟨here, later⟩ := List.forall_mem_cons.mp each
        intro sorted ordered
        cases ordered with
        | object increase sortedEach =>
            apply induction later
            apply Ordered.object (keysIncrease_insertEntry increase)
            intro entry member
            rcases mem_insertEntry member with rfl | old
            · exact here
            · exact sortedEach entry old
  exact places [] (.object .nil nofun)

/-! ## Tokens -/

def Token.Ordered : Token → Prop
  | .literal value => value.Ordered
  | _ => True

namespace Token

variable {negative : Bool} {text digits letters : List Char}

/-! Literals are neither arrays nor objects, so there is nothing to order in them. -/

theorem ordered_of_map_float {x : Option Float} (read : x.map Json.float = some value) :
    value.Ordered := by
  obtain ⟨y, -, rfl⟩ := Option.map_eq_some_iff.mp read
  exact .float y

theorem ordered_of_wholeNumber? (read : wholeNumber? negative digits = some value) :
    value.Ordered := by
  revert read
  fun_cases wholeNumber? negative digits with
  | case1 =>
      intro read
      cases read
      exact .float _
  | case2 | case4 =>
      intro read
      cases read
      exact .integer _
  | case3 | case5 => exact ordered_of_map_float

theorem ordered_of_number? (read : number? text = some value) : value.Ordered := by
  have scaled : ∀ (exponent : Option Int) (x : Int → Option Float),
      (do
        let exponent ← exponent
        let x ← x exponent
        return Json.float x) = some value → value.Ordered := by
    intro exponent x read
    obtain ⟨power, -, rest⟩ := Option.bind_eq_some_iff.mp read
    obtain ⟨y, -, same⟩ := Option.bind_eq_some_iff.mp rest
    cases same
    exact .float y
  revert read
  fun_cases number? text with
  | case1 | case3 => nofun
  | case2 => exact ordered_of_wholeNumber?
  | case4 | case5 => exact scaled _ _

theorem ordered_of_word? (read : word? letters = some value) : value.Ordered := by
  revert read
  fun_cases word? letters with
  | case1 =>
      intro read
      cases read
      exact .null
  | case2 =>
      intro read
      cases read
      exact .bool true
  | case3 =>
      intro read
      cases read
      exact .bool false
  | case4 => nofun

theorem ordered_of_punctuation? {c : Char} {token : Token}
    (read : punctuation? c = some token) : token.Ordered := by
  revert read
  fun_cases punctuation? c with
  | case7 => nofun
  | _ =>
      intro read
      cases read
      trivial

theorem ordered_of_ofText? {tokens : List Token} (cut : ofText? text = some tokens) :
    ∀ token ∈ tokens, token.Ordered := by
  have later : ∀ (token : Token) {rest : Option (List Token)} {tokens : List Token},
      token.Ordered → (∀ tokens, rest = some tokens → ∀ token ∈ tokens, token.Ordered) →
      rest.map (token :: ·) = some tokens → ∀ token ∈ tokens, token.Ordered := by
    intro token rest tokens here others equal
    obtain ⟨behind, read, rfl⟩ := Option.map_eq_some_iff.mp equal
    exact List.forall_mem_cons.mpr ⟨here, others behind read⟩
  fun_induction ofText? text generalizing tokens with
  | case1 =>
      cases cut
      exact nofun
  | case2 c rest space induction => exact induction cut
  | case3 | case5 | case7 | case9 => cases cut
  | case4 c rest space quote string after read shorter induction =>
      exact later (.literal _) (.string _) (fun _ => induction) cut
  | case6 c rest space quote number value read shorter induction =>
      exact later (.literal value) (ordered_of_number? read) (fun _ => induction) cut
  | case8 c rest space quote number letter value read shorter induction =>
      exact later (.literal value) (ordered_of_word? read) (fun _ => induction) cut
  | case10 c rest space quote number letter token read induction =>
      exact later token (ordered_of_punctuation? read) (fun _ => induction) cut

end Token

/-! ## The reader's state -/

def Frame.Ordered : Frame → Prop
  | .items earlier => ∀ item ∈ earlier, item.Ordered
  | .member earlier _ => ∀ field ∈ earlier, field.2.Ordered

def Place.Ordered : Place → Prop
  | .value | .firstItem | .firstKey => True
  | .key fields | .colon fields _ | .afterMember fields => ∀ field ∈ fields, field.2.Ordered
  | .afterItem items => ∀ item ∈ items, item.Ordered
  | .finished value => value.Ordered

/-- All values that the reader holds are ordered. -/
structure ReaderState.Ordered (state : ReaderState) : Prop where
  stack : ∀ frame ∈ state.stack, frame.Ordered
  place : state.place.Ordered

namespace ReaderState

variable {limit : Option Nat} {stack : List Frame} {state next : ReaderState} {token : Token}

theorem ordered_complete (ordered : value.Ordered) (each : ∀ frame ∈ stack, frame.Ordered) :
    (complete value stack).Ordered := by
  cases stack with
  | nil => exact ⟨nofun, ordered⟩
  | cons frame stack =>
      obtain ⟨here, others⟩ := List.forall_mem_cons.mp each
      cases frame with
      | items earlier => exact ⟨others, List.forall_mem_cons.mpr ⟨ordered, here⟩⟩
      | member earlier key => exact ⟨others, List.forall_mem_cons.mpr ⟨ordered, here⟩⟩

theorem ordered_beginValue (each : ∀ frame ∈ stack, frame.Ordered) (ordered : token.Ordered)
    (begun : beginValue limit stack token = some next) : next.Ordered := by
  unfold beginValue at begun
  split at begun
  next =>
    cases begun
    exact ordered_complete ordered each
  next =>
    split at begun
    next =>
      cases begun
      exact ⟨each, trivial⟩
    next => cases begun
  next =>
    split at begun
    next =>
      cases begun
      exact ⟨each, trivial⟩
    next => cases begun
  next => cases begun

theorem ordered_step (held : state.Ordered) (ordered : token.Ordered)
    (stepped : step limit state token = some next) : next.Ordered := by
  obtain ⟨each, here⟩ := held
  revert stepped
  fun_cases step limit state token with
  | case1 placed => exact ordered_beginValue each ordered
  | case2 placed =>
      intro stepped
      cases stepped
      exact ordered_complete (.array nofun) each
  | case3 placed others =>
      exact ordered_beginValue (List.forall_mem_cons.mpr ⟨List.forall_mem_nil _, each⟩) ordered
  | case4 placed =>
      intro stepped
      cases stepped
      exact ordered_complete (.object .nil nofun) each
  | case5 key placed =>
      intro stepped
      cases stepped
      exact ⟨each, nofun⟩
  | case6 earlier key placed | case10 earlier placed =>
      intro stepped
      cases stepped
      rw [placed] at here
      exact ⟨each, here⟩
  | case7 earlier key placed | case8 items placed =>
      intro stepped
      cases stepped
      rw [placed] at here
      exact ⟨List.forall_mem_cons.mpr ⟨here, each⟩, trivial⟩
  | case9 items placed =>
      intro stepped
      cases stepped
      rw [placed] at here
      exact ordered_complete (.array fun item member => here item (List.mem_reverse.mp member)) each
  | case11 fields placed =>
      intro stepped
      cases stepped
      rw [placed] at here
      exact ordered_complete
        (ordered_ofFields fun field member => here field (List.mem_reverse.mp member)) each
  | case12 => nofun

theorem ordered_foldlM {tokens : List Token} (held : state.Ordered)
    (ordered : ∀ token ∈ tokens, token.Ordered)
    (run : tokens.foldlM (step limit) state = some next) : next.Ordered := by
  induction tokens generalizing state with
  | nil =>
      cases run
      exact held
  | cons token tokens induction =>
      obtain ⟨here, later⟩ := List.forall_mem_cons.mp ordered
      rw [List.foldlM_cons] at run
      obtain ⟨middle, stepped, rest⟩ := Option.bind_eq_some_iff.mp run
      exact induction (ordered_step held here stepped) later rest

end ReaderState

/-! ## Values -/

theorem ordered_of_read? {limit : Option Nat} {text : String}
    (read : read? limit text = some json) : json.Ordered := by
  obtain ⟨tokens, cut, rest⟩ := Option.bind_eq_some_iff.mp read
  obtain ⟨final, run, finished⟩ := Option.bind_eq_some_iff.mp rest
  have empty : (⟨[], .value⟩ : ReaderState).Ordered := ⟨List.forall_mem_nil _, trivial⟩
  have held := ReaderState.ordered_foldlM empty (Token.ordered_of_ofText? cut) run
  have place := held.place
  split at finished
  next value ended =>
    cases finished
    rw [ended] at place
    exact place
  next => cases finished

theorem keysDistinct_of_read? {limit : Option Nat} {text : String}
    (read : read? limit text = some json) : json.KeysDistinct :=
  (ordered_of_read? read).keysDistinct

end Assessment.Json
