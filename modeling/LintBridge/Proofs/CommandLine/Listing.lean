import LintBridge.CommandLine.Listing
import LintBridge.Proofs.Sorting
import LintBridge.Proofs.Text.Runs
import Mathlib.Data.String.Basic

/-!
# The order of a listing

A listing has a section for the arguments and one for the options, each exactly if there is a
record to list (`mem_listing_arguments_iff`, `mem_listing_options_iff`). Arguments stand in the
order of their declaration. Options stand in the one order that is sorted by name, and by place in
the declaration where names are the same (`isOrder_sortedPlaces`, `IsOrder.unique`); records have no
part in it (`listing_withRecords`). The name that counts is found among the names of a parameter as
`Parameter.GoesBy` says.
-/
set_option autoImplicit false

namespace LintBridge.CommandLine

open Text (Stops)

namespace Parameter

/-! ## The name that a parameter is sorted by -/

def IsLongName (name : String) : Prop := ['-', '-'] <+: name.toList

/-- A parameter goes by the first long one of its names, the secondary names coming last. Without a
long one it goes by its first name, and where there is none, or an empty one, by the name that it
was declared with. -/
inductive GoesBy (p : Parameter) : String → Prop where
  | long {front behind : List String} {name : String}
      (names : p.names ++ p.secondaryNames = front ++ name :: behind)
      (short : ∀ other ∈ front, ¬ IsLongName other) (isLong : IsLongName name) : GoesBy p name
  | first {behind : List String} {name : String}
      (names : p.names ++ p.secondaryNames = name :: behind)
      (short : ∀ other ∈ name :: behind, ¬ IsLongName other) (given : name ≠ "") : GoesBy p name
  | own (short : ∀ other ∈ p.names ++ p.secondaryNames, ¬ IsLongName other)
      (nameless : (p.names ++ p.secondaryNames).headD "" = "") : GoesBy p (p.ownName.getD "")

/-- The name that a parameter goes by, without the hyphens in front of it and in lower case. -/
def SortsBy (p : Parameter) (key : String) : Prop :=
  ∃ name hyphens bare, p.GoesBy name ∧ name.toList = hyphens ++ bare ∧
    (∀ c ∈ hyphens, c = '-') ∧ Stops (· == '-') bare ∧ key = String.ofList (Text.lower bare)

theorem isLong_eq_true_iff (name : String) : isLong name = true ↔ IsLongName name :=
  List.isPrefixOf_iff_prefix

theorem isLong_eq_false_iff (name : String) : isLong name = false ↔ ¬ IsLongName name := by
  rw [← isLong_eq_true_iff, Bool.not_eq_true]

theorem find?_isLong_eq_some_iff (names : List String) (name : String) :
    names.find? isLong = some name ↔ IsLongName name ∧ ∃ front behind,
      names = front ++ name :: behind ∧ ∀ other ∈ front, ¬ IsLongName other := by
  simp only [List.find?_eq_some_iff_append, isLong_eq_true_iff, Bool.not_eq_true',
    isLong_eq_false_iff]

theorem find?_isLong_eq_none_iff (names : List String) :
    names.find? isLong = none ↔ ∀ other ∈ names, ¬ IsLongName other := by
  simp only [List.find?_eq_none, isLong_eq_true_iff]

theorem mainName_of_long {p : Parameter} {name : String}
    (found : (p.names ++ p.secondaryNames).find? isLong = some name) : p.mainName = name := by
  simp only [mainName, found]

theorem mainName_of_short {p : Parameter}
    (found : (p.names ++ p.secondaryNames).find? isLong = none) :
    p.mainName = if (p.names ++ p.secondaryNames).headD "" = "" then p.ownName.getD ""
      else (p.names ++ p.secondaryNames).headD "" := by
  simp only [mainName, found]

theorem goesBy_mainName (p : Parameter) : p.GoesBy p.mainName := by
  cases found : (p.names ++ p.secondaryNames).find? isLong with
  | some name =>
      obtain ⟨isLong, front, behind, names, short⟩ := (find?_isLong_eq_some_iff ..).1 found
      rw [mainName_of_long found]
      exact .long names short isLong
  | none =>
      have short := (find?_isLong_eq_none_iff ..).1 found
      rw [mainName_of_short found]
      split_ifs with nameless
      · exact .own short nameless
      · cases names : p.names ++ p.secondaryNames with
        | nil => exact absurd (by rw [names, List.headD_nil]) nameless
        | cons name behind =>
            rw [names, List.headD_cons] at nameless
            exact .first names (names ▸ short) nameless

theorem GoesBy.eq_mainName {p : Parameter} {name : String} (goes : p.GoesBy name) :
    name = p.mainName := by
  cases goes with
  | long names short isLong =>
      exact (mainName_of_long ((find?_isLong_eq_some_iff ..).2 ⟨isLong, _, _, names, short⟩)).symm
  | first names short given =>
      rw [← names] at short
      rw [mainName_of_short ((find?_isLong_eq_none_iff ..).2 short), names, List.headD_cons,
        if_neg given]
  | own short nameless =>
      rw [mainName_of_short ((find?_isLong_eq_none_iff ..).2 short), if_pos nameless]

theorem sortsBy_iff (p : Parameter) (key : String) : p.SortsBy key ↔ p.sortName = key := by
  constructor
  · rintro ⟨name, hyphens, bare, goes, split, all, stops, rfl⟩
    have all' : ∀ c ∈ hyphens, (c == '-') = true := fun c member => beq_iff_eq.2 (all c member)
    rw [sortName, ← goes.eq_mainName, split, Text.dropWhile_run all' stops]
  · rintro rfl
    refine ⟨p.mainName, p.mainName.toList.takeWhile (· == '-'), _, goesBy_mainName p,
      List.takeWhile_append_dropWhile.symm, fun c member => ?_, Text.stops_dropWhile _ _, rfl⟩
    exact beq_iff_eq.1 (List.mem_takeWhile_imp (p := (· == '-')) member)

end Parameter

/-! ## The order of the options -/

def arguments (parameters : List Parameter) : List Parameter := parameters.filter (·.isArgument)

def options (parameters : List Parameter) : List Parameter := parameters.filter (!·.isArgument)

/-- The options among some parameters, each with its place in the declaration. -/
def placedOptions (parameters : List Parameter) : List (Parameter × Nat) :=
  parameters.zipIdx.filter (!·.1.isArgument)

/-- Characters of names are compared by their codes. -/
def Precedes (p q : Parameter × Nat) : Prop :=
  p.1.sortName < q.1.sortName ∨ p.1.sortName = q.1.sortName ∧ p.2 < q.2

instance : DecidableRel Precedes := fun _ _ => instDecidableOr

structure IsOrder (parameters : List Parameter) (order : List (Parameter × Nat)) : Prop where
  perm : order.Perm (placedOptions parameters)
  sorted : order.Pairwise Precedes

/-- Precedence goes one way only, so that there is only one order. -/
theorem IsOrder.unique {parameters : List Parameter} {order other : List (Parameter × Nat)}
    (isOrder : IsOrder parameters order) (isOrder' : IsOrder parameters other) : order = other := by
  refine List.Perm.eq_of_pairwise (fun p q _ _ first second => ?_) isOrder.sorted isOrder'.sorted
    (isOrder.perm.trans isOrder'.perm.symm)
  rcases first with lt | ⟨same, lt⟩ <;> rcases second with gt | ⟨same', gt⟩
  · exact absurd gt lt.asymm
  · exact absurd same'.symm lt.ne
  · exact absurd same.symm gt.ne
  · exact absurd gt lt.asymm

def compareNames (p q : Parameter) : Bool := !decide (q.sortName < p.sortName)

theorem compareNames_iff (p q : Parameter) : compareNames p q = true ↔ p.sortName ≤ q.sortName := by
  rw [compareNames, Bool.not_eq_true', decide_eq_false_iff_not, not_lt]

theorem sortedOptions_eq (parameters : List Parameter) :
    sortedOptions parameters = (options parameters).mergeSort compareNames := rfl

/-- The options in their order, with their places. -/
def sortedPlaces (parameters : List Parameter) : List (Parameter × Nat) :=
  (placedOptions parameters).mergeSort fun p q => compareNames p.1 q.1

theorem isOrder_sortedPlaces (parameters : List Parameter) :
    IsOrder parameters (sortedPlaces parameters) := by
  have compares : ComparesBy (fun p : Parameter × Nat => p.1.sortName)
      fun p q => compareNames p.1 q.1 := fun p q => compareNames_iff p.1 q.1
  have placed : (placedOptions parameters).Pairwise fun p q => p.2 < q.2 :=
    (zipIdx_pairwise_lt parameters).sublist List.filter_sublist
  exact ⟨List.mergeSort_perm _ _, pairwise_mergeSort_places compares placed⟩

theorem map_fst_placedOptions (parameters : List Parameter) :
    (placedOptions parameters).map Prod.fst = options parameters := by
  have split := List.filter_map (f := Prod.fst) (p := fun p : Parameter => !p.isArgument)
    (l := parameters.zipIdx)
  rw [List.zipIdx_map_fst] at split
  exact split.symm

theorem map_fst_sortedPlaces (parameters : List Parameter) :
    (sortedPlaces parameters).map Prod.fst = sortedOptions parameters := by
  rw [sortedPlaces, List.map_mergeSort (s := compareNames) fun p _ q _ => rfl,
    map_fst_placedOptions, sortedOptions_eq]

/-! ## Sections -/

/-- A section is there exactly if one of the parameters that it is for has a record, and then it has
these rows. -/
structure Covers (sections : List Section) (title : String) (shown : List Parameter)
    (rows : List Record) : Prop where
  exists_iff : (∃ rows', ⟨title, rows'⟩ ∈ sections) ↔ ∃ p ∈ shown, p.record ≠ none
  eq_rows : ∀ rows', ⟨title, rows'⟩ ∈ sections → rows' = rows

theorem filterMap_record_eq_nil_iff (parameters : List Parameter) :
    parameters.filterMap Parameter.record = [] ↔ ∀ p ∈ parameters, p.record = none :=
  List.filterMap_eq_nil_iff

theorem sectionOf_eq (title : String) (parameters : List Parameter) :
    sectionOf title parameters =
      if parameters.filterMap Parameter.record = [] then []
      else [⟨title, parameters.filterMap Parameter.record⟩] := by
  rw [sectionOf]
  split
  · rename_i none
    rw [if_pos none]
  · rename_i rows some
    rw [if_neg some]

theorem mem_sectionOf_iff (title title' : String) (rows : List Record)
    (parameters : List Parameter) :
    ⟨title', rows⟩ ∈ sectionOf title parameters ↔
      title' = title ∧ rows = parameters.filterMap Parameter.record ∧
        ∃ p ∈ parameters, p.record ≠ none := by
  have present : (∃ p ∈ parameters, p.record ≠ none) ↔
      parameters.filterMap Parameter.record ≠ [] := by
    simp only [ne_eq, filterMap_record_eq_nil_iff, not_forall, exists_prop]
  rw [sectionOf_eq, present]
  split_ifs with none <;> simp [none]

theorem listing_eq (parameters : List Parameter) :
    listing parameters = sectionOf "Arguments" (arguments parameters) ++
      sectionOf "Options" (sortedOptions parameters) := rfl

theorem mem_listing_arguments_iff (rows : List Record) (parameters : List Parameter) :
    ⟨"Arguments", rows⟩ ∈ listing parameters ↔
      rows = (arguments parameters).filterMap Parameter.record ∧
        ∃ p ∈ arguments parameters, p.record ≠ none := by
  rw [listing_eq, List.mem_append, mem_sectionOf_iff, mem_sectionOf_iff]
  simp

theorem mem_listing_options_iff (rows : List Record) (parameters : List Parameter) :
    ⟨"Options", rows⟩ ∈ listing parameters ↔
      rows = (sortedOptions parameters).filterMap Parameter.record ∧
        ∃ p ∈ options parameters, p.record ≠ none := by
  have perm : (sortedOptions parameters).Perm (options parameters) := List.mergeSort_perm ..
  rw [listing_eq, List.mem_append, mem_sectionOf_iff, mem_sectionOf_iff]
  simp [perm.mem_iff]

theorem Covers.of_mem_iff {sections : List Section} {title : String} {shown : List Parameter}
    {rows : List Record} (mem_iff : ∀ rows', ⟨title, rows'⟩ ∈ sections ↔
      rows' = rows ∧ ∃ p ∈ shown, p.record ≠ none) : Covers sections title shown rows := by
  constructor
  · simp only [mem_iff, exists_and_right, exists_eq, true_and]
  · exact fun rows' member => ((mem_iff rows').1 member).1

theorem titles_sectionOf (title : String) (parameters : List Parameter) :
    ((sectionOf title parameters).map Section.title).Sublist [title] := by
  rw [sectionOf_eq]
  split_ifs
  · exact List.nil_sublist _
  · exact List.Sublist.refl _

theorem titles_listing (parameters : List Parameter) :
    ((listing parameters).map Section.title).Sublist ["Arguments", "Options"] := by
  rw [listing_eq, List.map_append]
  exact (titles_sectionOf ..).append (titles_sectionOf ..)

/-! ## Other records -/

def Parameter.withRecords (f : Record → Record) (p : Parameter) : Parameter :=
  { p with record := p.record.map f }

def Section.withRecords (f : Record → Record) (s : Section) : Section :=
  { s with rows := s.rows.map f }

section

variable (f : Record → Record) (parameters : List Parameter)

theorem arguments_withRecords :
    arguments (parameters.map (Parameter.withRecords f)) =
      (arguments parameters).map (Parameter.withRecords f) :=
  List.filter_map

theorem options_withRecords :
    options (parameters.map (Parameter.withRecords f)) =
      (options parameters).map (Parameter.withRecords f) :=
  List.filter_map

theorem sortedOptions_withRecords :
    sortedOptions (parameters.map (Parameter.withRecords f)) =
      (sortedOptions parameters).map (Parameter.withRecords f) := by
  have sameNames : ∀ p ∈ options parameters, ∀ q ∈ options parameters,
      compareNames p q = compareNames (p.withRecords f) (q.withRecords f) := fun p _ q _ => rfl
  rw [sortedOptions_eq, sortedOptions_eq, options_withRecords, List.map_mergeSort sameNames]

theorem sectionOf_withRecords (title : String) :
    sectionOf title (parameters.map (Parameter.withRecords f)) =
      (sectionOf title parameters).map (Section.withRecords f) := by
  have records : (parameters.map (Parameter.withRecords f)).filterMap Parameter.record =
      (parameters.filterMap Parameter.record).map f := by
    rw [List.filterMap_map, List.map_filterMap]
    rfl
  rw [sectionOf, sectionOf, records]
  cases parameters.filterMap Parameter.record <;> rfl

/-- Other records stand where those that they replace stood. -/
theorem listing_withRecords :
    listing (parameters.map (Parameter.withRecords f)) =
      (listing parameters).map (Section.withRecords f) := by
  rw [listing_eq, listing_eq, arguments_withRecords, sortedOptions_withRecords,
    sectionOf_withRecords, sectionOf_withRecords, List.map_append]

end

/-! ## Listings -/

theorem records_sortedPlaces (parameters : List Parameter) :
    (sortedPlaces parameters).filterMap (·.1.record) =
      (sortedOptions parameters).filterMap Parameter.record := by
  rw [← map_fst_sortedPlaces, List.filterMap_map]
  rfl

theorem records_perm_of_isOrder {parameters : List Parameter} {order : List (Parameter × Nat)}
    (isOrder : IsOrder parameters order) :
    (order.filterMap (·.1.record)).Perm ((options parameters).filterMap Parameter.record) := by
  rw [← map_fst_placedOptions, List.filterMap_map]
  exact isOrder.perm.filterMap _

/-- Every parameter has one name that it is sorted by. For any parameters there is exactly one order
of the options that is sorted by name, and by place where names are the same. A listing has a
section of arguments exactly if one of them has a record, and it has their records in the order in
which they were declared; behind it there is a section of options exactly if one of them has a
record, and it has the records of all of them in that order. There is no other section. Records that
are replaced are listed in the same places. -/
theorem listing_is_sorted_partition :
    (∀ (p : Parameter) (key : String), p.sortName = key ↔ p.SortsBy key) ∧
      ∀ parameters : List Parameter,
        ∃ order : List (Parameter × Nat), IsOrder parameters order ∧
          (∀ other, IsOrder parameters other → other = order) ∧
          Covers (listing parameters) "Arguments" (arguments parameters)
            ((arguments parameters).filterMap Parameter.record) ∧
          Covers (listing parameters) "Options" (options parameters)
            (order.filterMap (·.1.record)) ∧
          (order.filterMap (·.1.record)).Perm ((options parameters).filterMap Parameter.record) ∧
          ((listing parameters).map Section.title).Sublist ["Arguments", "Options"] ∧
          ∀ f : Record → Record, listing (parameters.map (Parameter.withRecords f)) =
            (listing parameters).map (Section.withRecords f) := by
  refine ⟨fun p key => (p.sortsBy_iff key).symm, fun parameters => ?_⟩
  have isOrder := isOrder_sortedPlaces parameters
  refine ⟨sortedPlaces parameters, isOrder, fun other isOrder' => isOrder'.unique isOrder,
    .of_mem_iff fun rows => mem_listing_arguments_iff rows parameters, ?_,
    records_perm_of_isOrder isOrder, titles_listing parameters,
    fun f => listing_withRecords f parameters⟩
  rw [records_sortedPlaces]
  exact .of_mem_iff fun rows => mem_listing_options_iff rows parameters

/-- Two options of one name, one of them by a secondary name, an option without a record, and one
that has no names but its own. -/
theorem listing_of_options_of_one_name :
    let former : Parameter := ⟨["-z", "--Beta"], [], none, false, some ("-z, --Beta", "First.")⟩
    let paths : Parameter := ⟨[], [], some "paths", true, some ("paths", "Scripts.")⟩
    let latter : Parameter := ⟨["-a"], ["--BETA"], none, false, some ("-a / --BETA", "Again.")⟩
    let hidden : Parameter := ⟨["--alpha"], [], none, false, none⟩
    let own : Parameter := ⟨[], [], some "Apex", false, some ("Apex", "Own.")⟩
    let parameters := [former, paths, latter, hidden, own]
    IsOrder parameters [(hidden, 3), (own, 4), (former, 0), (latter, 2)] ∧
      ⟨"Arguments", [("paths", "Scripts.")]⟩ ∈ listing parameters ∧
      ⟨"Options", [("Apex", "Own."), ("-z, --Beta", "First."), ("-a / --BETA", "Again.")]⟩ ∈
        listing parameters := by
  intro former paths latter hidden own parameters
  have perm : ([(hidden, 3), (own, 4)] ++ [(former, 0), (latter, 2)]).Perm
      (placedOptions parameters) := List.perm_append_comm
  have isOrder : IsOrder parameters [(hidden, 3), (own, 4), (former, 0), (latter, 2)] :=
    ⟨perm, by decide +kernel⟩
  obtain ⟨order, -, unique, ofArguments, ofOptions, -⟩ := listing_is_sorted_partition.2 parameters
  obtain rfl := unique _ isOrder
  have argument : paths ∈ arguments parameters := List.mem_singleton.2 rfl
  have option : former ∈ options parameters := List.mem_cons_self ..
  obtain ⟨rows, member⟩ := ofArguments.exists_iff.2 ⟨paths, argument, Option.some_ne_none _⟩
  obtain ⟨rows', member'⟩ := ofOptions.exists_iff.2 ⟨former, option, Option.some_ne_none _⟩
  obtain rfl := ofArguments.eq_rows rows member
  obtain rfl := ofOptions.eq_rows rows' member'
  exact ⟨isOrder, member, member'⟩

end LintBridge.CommandLine
