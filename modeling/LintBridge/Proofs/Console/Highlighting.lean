import LintBridge.Proofs.Console.Calls

/-!
# The parts of a debugging message

A cursor goes through a message from one match of the pattern `([\w-]+)=(".*?"|\S+)` to the next
and leaves parts behind: the text up to a match, its key, its sign and its value, and in the end the
text behind the last match. Whatever matches it meets, as long as they stand in the message one
behind the other, its parts put together are the message (`text_cutUp`). The scan for keys and
values leaves the same parts (`exists_finds`).

The pattern is matched with backtracking: a `Pattern` tells all that can be taken of a text, in the
order in which it is tried, and the first of these is the match (`pair?_run`).
-/
set_option autoImplicit false

namespace LintBridge

open Text (Stops)

/-! ## Matching with backtracking -/

/-- What can be taken of a text, with what is left of it; what is tried first comes first. -/
abbrev Pattern : Type := List Char → List (List Char × List Char)

namespace Pattern

/-- One character of a kind. -/
def one (holds : Char → Bool) : Pattern
  | [] => []
  | c :: rest => if holds c then [([c], rest)] else []

/-- What is taken and left behind some characters. -/
def behind (taken : List Char) (outcome : List Char × List Char) : List Char × List Char :=
  (taken ++ outcome.1, outcome.2)

/-- Characters of a kind; more of them are tried first. -/
def many (holds : Char → Bool) : Pattern
  | [] => [([], [])]
  | c :: rest => (if holds c then (many holds rest).map (behind [c]) else []) ++ [([], c :: rest)]

/-- Characters of a kind; fewer of them are tried first. -/
def few (holds : Char → Bool) : Pattern
  | [] => [([], [])]
  | c :: rest => ([], c :: rest) :: if holds c then (few holds rest).map (behind [c]) else []

def andThen (first second : Pattern) : Pattern := fun text =>
  (first text).flatMap fun outcome => (second outcome.2).map (behind outcome.1)

def orElse (first second : Pattern) : Pattern := fun text => first text ++ second text

/-- Fewer characters need not be tried if nothing else can be taken where one of the kind stands. -/
theorem flatMap_many {β : Type} {holds : Char → Bool} {next : List Char × List Char → List β}
    (disjoint : ∀ taken c rest, holds c = true → next (taken, c :: rest) = []) (text : List Char) :
    (many holds text).flatMap next = next (text.takeWhile holds, text.dropWhile holds) := by
  induction text generalizing next with
  | nil => exact List.flatMap_singleton ..
  | cons c rest ih =>
      rw [many, List.flatMap_append, List.takeWhile_cons, List.dropWhile_cons]
      by_cases kind : holds c = true
      · have later := @ih (next ∘ behind [c]) fun taken => disjoint (c :: taken)
        rw [if_pos kind, if_pos kind, if_pos kind, List.flatMap_map, List.flatMap_singleton,
          disjoint [] c rest kind, List.append_nil]
        exact later
      · rw [if_neg kind, if_neg kind, if_neg kind, List.flatMap_nil, List.nil_append,
          List.flatMap_singleton]

theorem head?_many (holds : Char → Bool) (text : List Char) :
    (many holds text).head? = some (text.takeWhile holds, text.dropWhile holds) := by
  induction text with
  | nil => rfl
  | cons c rest ih =>
      rw [many, List.takeWhile_cons, List.dropWhile_cons]
      by_cases kind : holds c = true
      · rw [if_pos kind, if_pos kind, if_pos kind, List.head?_append, List.head?_map, ih]
        rfl
      · rw [if_neg kind, if_neg kind, if_neg kind]
        rfl

theorem behind_nil : behind [] = id := rfl

theorem behind_comp (taken more : List Char) :
    behind taken ∘ behind more = behind (taken ++ more) := by
  funext outcome
  simp [behind]

theorem one_andThen_cons (holds : Char → Bool) (second : Pattern) (c : Char) (rest : List Char) :
    (one holds).andThen second (c :: rest) =
      if holds c then (second rest).map (behind [c]) else [] := by
  rw [andThen, one]
  split_ifs
  · exact List.flatMap_singleton ..
  · rfl

theorem few_andThen_cons (holds : Char → Bool) (second : Pattern) (c : Char) (rest : List Char) :
    (few holds).andThen second (c :: rest) = second (c :: rest) ++
      if holds c then ((few holds).andThen second rest).map (behind [c]) else [] := by
  rw [andThen, few, List.flatMap_cons, behind_nil, List.map_id]
  by_cases kind : holds c = true
  · rw [if_pos kind, if_pos kind, andThen, List.flatMap_map, List.map_flatMap]
    simp only [List.map_map, behind_comp]
    rfl
  · rw [if_neg kind, if_neg kind, List.flatMap_nil]

end Pattern

namespace KeyValue

open Pattern (one many few)

def key : Pattern := (one isKeyChar).andThen (many isKeyChar)

/-- A text between quotation marks on one line. -/
def quoted : Pattern :=
  (one (· == '"')).andThen ((few (· != '\n')).andThen (one (· == '"')))

def bare : Pattern := (one (!Text.isBlank ·)).andThen (many (!Text.isBlank ·))

/-- The keys and values that a text can start with, with a sign between the two. -/
def pairs (text : List Char) : List (List Char × List Char) :=
  (key text).flatMap fun (key, signed) =>
    (one (· == '=') signed).flatMap fun (_, behind) =>
      ((quoted.orElse bare) behind).map fun (value, _) => (key, value)

def pair? (text : List Char) : Option (List Char × List Char) := (pairs text).head?

theorem head?_closing (text : List Char) :
    ((few (· != '\n')).andThen (one (· == '"')) text).head? =
      (quotedLength? text).map fun n => (text.take n, text.drop n) := by
  induction text with
  | nil => rfl
  | cons c rest ih =>
      rw [Pattern.few_andThen_cons, quotedLength?, one]
      by_cases closing : (c == '"') = true
      · rw [if_pos closing, if_pos closing]
        rfl
      · rw [if_neg closing, if_neg closing, List.nil_append]
        by_cases feed : (c == '\n') = true
        · have last : ¬ (c != '\n') = true := by simpa using feed
          rw [if_neg last, if_pos feed]
          rfl
        · have inner : (c != '\n') = true := by simpa using feed
          rw [if_pos inner, if_neg feed, List.head?_map, ih, Option.map_map, Option.map_map]
          rfl

theorem head?_quoted (c : Char) (rest : List Char) :
    (quoted (c :: rest)).head? =
      if c == '"' then (quotedLength? rest).map fun n => (c :: rest.take n, rest.drop n)
      else none := by
  rw [quoted, Pattern.one_andThen_cons]
  split_ifs
  · rw [List.head?_map, head?_closing, Option.map_map]
    rfl
  · rfl

theorem take_runLength (text : List Char) :
    text.take (runLength text) = text.takeWhile (!Text.isBlank ·) := by
  have front : text.takeWhile (!Text.isBlank ·) <+: text := List.takeWhile_prefix _
  exact (List.prefix_iff_eq_take.1 front).symm

theorem head?_bare (text : List Char) :
    (bare text).head?.map Prod.fst =
      if runLength text = 0 then none else some (text.take (runLength text)) := by
  rw [take_runLength]
  cases text with
  | nil => rfl
  | cons c rest =>
      rw [bare, Pattern.one_andThen_cons, runLength, List.takeWhile_cons]
      by_cases solid : (!Text.isBlank c) = true
      · rw [if_pos solid, if_pos solid, List.head?_map, Pattern.head?_many]
        rfl
      · rw [if_neg solid, if_neg solid]
        rfl

/-- A value is taken between quotation marks wherever it can be. -/
theorem head?_value (text : List Char) :
    ((quoted.orElse bare) text).head?.map Prod.fst =
      if valueLength text = 0 then none else some (text.take (valueLength text)) := by
  cases text with
  | nil => rfl
  | cons c rest =>
      rw [Pattern.orElse, List.head?_append, head?_quoted, valueLength]
      by_cases mark : (c == '"') = true
      · rw [if_pos mark, if_pos mark]
        cases quotedLength? rest with
        | some n => exact (if_neg (Nat.succ_ne_zero n)).symm
        | none => exact head?_bare (c :: rest)
      · rw [if_neg mark, if_neg mark]
        exact head?_bare (c :: rest)

/-- What a pair is taken of behind its key. -/
theorem head?_signed (key behind : List Char) :
    ((one (· == '=') behind).flatMap fun sign =>
        ((quoted.orElse bare) sign.2).map fun value => (key, value.1)).head? =
      if signedLength behind = 0 then none
      else some (key, (behind.drop 1).take (signedLength behind)) := by
  cases behind with
  | nil => rfl
  | cons c rest =>
      rw [one]
      by_cases sign : (c == '=') = true
      · rw [if_pos sign, List.flatMap_singleton, List.head?_map]
        have value := congrArg (Option.map (Prod.mk key)) (head?_value rest)
        rw [Option.map_map] at value
        rw [beq_iff_eq.1 sign]
        exact value.trans (apply_ite ..)
      · have unsigned : signedLength (c :: rest) = 0 := by
          rw [signedLength]
          exact fun behind same => sign (beq_iff_eq.2 (List.cons.inj same).1)
        rw [if_neg sign, if_pos unsigned]
        rfl

/-- A run of characters of keys is one key, and there is no pair if no value with a sign stands
behind it. -/
theorem pair?_run {run behind : List Char} (given : run ≠ [])
    (all : ∀ c ∈ run, isKeyChar c = true) (stops : Stops isKeyChar behind) :
    pair? (run ++ behind) =
      if signedLength behind = 0 then none
      else some (run, (behind.drop 1).take (signedLength behind)) := by
  obtain ⟨c, rest, rfl⟩ := List.exists_cons_of_ne_nil given
  rw [List.forall_mem_cons] at all
  rw [pair?, pairs, List.cons_append, key, Pattern.one_andThen_cons, if_pos all.1,
    List.flatMap_map, Pattern.flatMap_many]
  · rw [Text.takeWhile_run all.2 stops, Text.dropWhile_run all.2 stops]
    exact head?_signed (c :: rest) behind
  · intro taken d left kind
    -- A shorter key ends in front of a character of keys, where no sign stands.
    have unsigned : ¬ (d == '=') = true := by
      rw [beq_iff_eq]
      rintro rfl
      exact absurd kind (by decide)
    exact congrArg (List.flatMap _) (if_neg unsigned)

theorem pair?_of_stops {text : List Char} (stops : Stops isKeyChar text) : pair? text = none := by
  cases text with
  | nil => rfl
  | cons c rest =>
      have other : ¬ isKeyChar c = true := by
        rw [stops c rfl]
        exact Bool.false_ne_true
      rw [pair?, pairs, key, Pattern.one_andThen_cons, if_neg other]
      rfl

theorem prefix_of_pair? {text name value : List Char} (found : pair? text = some (name, value)) :
    name ++ '=' :: value <+: text := by
  by_cases given : text.takeWhile isKeyChar = []
  · have whole := List.takeWhile_append_dropWhile (p := isKeyChar) (l := text)
    rw [given, List.nil_append] at whole
    rw [pair?_of_stops (whole ▸ Text.stops_dropWhile isKeyChar text)] at found
    cases found
  · rw [← List.takeWhile_append_dropWhile (p := isKeyChar) (l := text)] at found ⊢
    rw [pair?_run given (fun c => List.mem_takeWhile_imp) (Text.stops_dropWhile _ _)] at found
    split_ifs at found with unsigned
    obtain ⟨rfl, rfl⟩ := Prod.mk.inj (Option.some.inj found)
    refine (List.prefix_append_right_inj _).2 ⟨_, text_signed unsigned (signedLength _)⟩

/-! ## The cursor -/

/-- A match of the pattern in a message: the index that it starts at, its key and its value. -/
@[ext]
structure Hit where
  start : Nat
  key : List Char
  value : List Char
  deriving DecidableEq, Repr

namespace Hit

def text (m : Hit) : List Char := m.key ++ '=' :: m.value

def stop (m : Hit) : Nat := m.start + m.text.length

def parts (m : Hit) : List Part := [.key m.key, .sign, .value m.key m.value]

theorem flatMap_parts (m : Hit) : m.parts.flatMap Part.text = m.text := by
  simp [parts, text, Part.text]

end Hit

/-- The text between two indices; no part where there is none. -/
def between (message : List Char) (start stop : Nat) : List Part :=
  if start < stop then [.plain ((message.take stop).drop start)] else []

/-- The parts of a message from a cursor on, which goes from the end of one match to the next. -/
def cutUp (message : List Char) (cursor : Nat) : List Hit → List Part
  | [] => between message cursor message.length
  | m :: more => between message cursor m.start ++ m.parts ++ cutUp message m.stop more

/-- Matches that stand in a message one behind the other, from a cursor on. -/
inductive Placed (message : List Char) : Nat → List Hit → Prop where
  | nil (cursor : Nat) : Placed message cursor []
  | next {cursor : Nat} {m : Hit} {more : List Hit} (behind : cursor ≤ m.start)
      (stands : m.text <+: message.drop m.start) (placed : Placed message m.stop more) :
      Placed message cursor (m :: more)

/-- The first match from a cursor on. -/
structure IsNext (message : List Char) (cursor : Nat) (m : Hit) : Prop where
  behind : cursor ≤ m.start
  found : pair? (message.drop m.start) = some (m.key, m.value)
  first : ∀ i, cursor ≤ i → i < m.start → pair? (message.drop i) = none

/-- All matches from a cursor on, each sought behind the one before it. -/
inductive Finds (message : List Char) : Nat → List Hit → Prop where
  | nil {cursor : Nat} (nothing : ∀ i, cursor ≤ i → pair? (message.drop i) = none) :
      Finds message cursor []
  | next {cursor : Nat} {m : Hit} {more : List Hit} (isNext : IsNext message cursor m)
      (finds : Finds message m.stop more) : Finds message cursor (m :: more)

section

variable {message : List Char} {cursor : Nat} {hits hits' : List Hit}

theorem text_between (message : List Char) (start stop : Nat) :
    (between message start stop).flatMap Part.text = (message.take stop).drop start := by
  rw [between]
  split_ifs with before
  · exact List.flatMap_singleton ..
  · rw [List.drop_eq_nil_of_le ((List.length_take_le ..).trans (Nat.le_of_not_lt before))]
    rfl

theorem drop_take_append_drop {start stop : Nat} (le : start ≤ stop) (message : List Char) :
    (message.take stop).drop start ++ message.drop stop = message.drop start := by
  obtain ⟨n, rfl⟩ := Nat.exists_eq_add_of_le le
  rw [List.drop_take, Nat.add_sub_cancel_left, ← List.drop_drop, List.take_append_drop]

theorem Hit.text_append_drop_stop {m : Hit} (stands : m.text <+: message.drop m.start) :
    m.text ++ message.drop m.stop = message.drop m.start := by
  obtain ⟨behind, split⟩ := stands
  rw [stop, ← List.drop_drop, ← split, List.drop_left]

/-- Nothing is lost and nothing is told twice, whatever matches the cursor meets. -/
theorem text_cutUp (placed : Placed message cursor hits) :
    (cutUp message cursor hits).flatMap Part.text = message.drop cursor := by
  induction placed with
  | nil cursor => rw [cutUp, text_between, List.take_length]
  | next behind stands placed ih =>
      rw [cutUp, List.flatMap_append, List.flatMap_append, ih, text_between, Hit.flatMap_parts,
        List.append_assoc, Hit.text_append_drop_stop stands, drop_take_append_drop behind]

theorem Finds.placed (finds : Finds message cursor hits) : Placed message cursor hits := by
  induction finds with
  | nil nothing => exact .nil _
  | next isNext finds ih => exact .next isNext.behind (prefix_of_pair? isNext.found) ih

theorem IsNext.start_le {m m' : Hit} (isNext : IsNext message cursor m)
    (isNext' : IsNext message cursor m') : m.start ≤ m'.start := by
  by_contra before
  have nothing := isNext.first m'.start isNext'.behind (Nat.lt_of_not_le before)
  rw [isNext'.found] at nothing
  cases nothing

theorem IsNext.unique {m m' : Hit} (isNext : IsNext message cursor m)
    (isNext' : IsNext message cursor m') : m = m' := by
  have start : m.start = m'.start :=
    Nat.le_antisymm (isNext.start_le isNext') (isNext'.start_le isNext)
  have pair := isNext.found
  rw [start, isNext'.found] at pair
  obtain ⟨key, value⟩ := Prod.mk.inj (Option.some.inj pair)
  exact Hit.ext start key.symm value.symm

theorem IsNext.not_nothing {m : Hit} (isNext : IsNext message cursor m) :
    ¬ ∀ i, cursor ≤ i → pair? (message.drop i) = none := by
  intro nothing
  have found := isNext.found
  rw [nothing _ isNext.behind] at found
  cases found

theorem Finds.unique (finds : Finds message cursor hits)
    (finds' : Finds message cursor hits') : hits = hits' := by
  induction finds generalizing hits' with
  | nil nothing =>
      cases finds' with
      | nil nothing' => rfl
      | next isNext finds' => exact absurd nothing isNext.not_nothing
  | next isNext finds ih =>
      cases finds' with
      | nil nothing => exact absurd nothing isNext.not_nothing
      | next isNext' finds' =>
          obtain rfl := isNext.unique isNext'
          rw [ih finds']

/-- Where no pair starts the cursor may as well start later. -/
theorem Finds.of_later {later : Nat} (le : cursor ≤ later)
    (nothing : ∀ i, cursor ≤ i → i < later → pair? (message.drop i) = none)
    (finds : Finds message later hits) : Finds message cursor hits := by
  have skipped {i : Nat} (behind : cursor ≤ i)
      (first : later ≤ i → pair? (message.drop i) = none) :
      pair? (message.drop i) = none := by
    rcases Nat.lt_or_ge i later with early | late
    · exact nothing i behind early
    · exact first late
  cases finds with
  | nil nothing' => exact .nil fun i behind => skipped behind (nothing' i)
  | next isNext finds =>
      refine .next ⟨le.trans isNext.behind, isNext.found, fun i behind before => ?_⟩ finds
      exact skipped behind fun late => isNext.first i late before

end

/-! ## The parts of a message -/

def Part.isPlain : Part → Bool
  | .plain _ => true
  | _ => false

theorem addPlain_of_stops {parts : List Part} (stops : Stops Part.isPlain parts)
    (text : List Char) : addPlain text parts = .plain text :: parts := by
  cases parts with
  | nil => rfl
  | cons part more =>
      cases part with
      | plain other => exact absurd (stops (.plain other) rfl).symm Bool.false_ne_true
      | _ => rfl

/-- Text that the cursor passes belongs to the plain part that it stands in front of. -/
theorem addPlain_between {message skipped rest : List Char} {cursor stop : Nat}
    (given : skipped ≠ []) (split : message.drop cursor = skipped ++ rest)
    (le : cursor + skipped.length ≤ stop) {more : List Part} (stops : Stops Part.isPlain more) :
    addPlain skipped (between message (cursor + skipped.length) stop ++ more) =
      between message cursor stop ++ more := by
  have before : cursor < stop :=
    Nat.lt_of_lt_of_le (Nat.lt_add_of_pos_right (List.length_pos_iff.2 given)) le
  have whole : (message.take stop).drop cursor =
      skipped ++ (message.take stop).drop (cursor + skipped.length) := by
    have room : skipped.length ≤ stop - cursor := by omega
    rw [List.drop_take, List.drop_take, ← List.drop_drop, split, List.drop_left, List.take_append,
      List.take_of_length_le room, Nat.sub_sub]
  rw [between, between, if_pos before, whole]
  split_ifs with later
  · rfl
  · have nothing : (message.take stop).drop (cursor + skipped.length) = [] :=
      List.drop_eq_nil_of_le ((List.length_take_le ..).trans (Nat.le_of_not_lt later))
    rw [List.nil_append, addPlain_of_stops stops, nothing, List.append_nil]
    rfl

theorem addPlain_cutUp {message skipped rest : List Char} {cursor : Nat} (given : skipped ≠ [])
    (split : message.drop cursor = skipped ++ rest) {hits : List Hit}
    (placed : Placed message (cursor + skipped.length) hits) :
    addPlain skipped (cutUp message (cursor + skipped.length) hits) =
      cutUp message cursor hits := by
  cases placed with
  | nil =>
      have le : cursor + skipped.length ≤ message.length := by
        have lengths := congrArg List.length split
        have pos := List.length_pos_iff.2 given
        rw [List.length_drop, List.length_append] at lengths
        omega
      have passed := addPlain_between given split le (Text.stops_nil (p := Part.isPlain))
      rwa [List.append_nil, List.append_nil] at passed
  | next behind stands placed =>
      rw [cutUp, cutUp, List.append_assoc, List.append_assoc]
      exact addPlain_between given split behind (Text.stops_cons rfl)

/-- The cursor passes text in which no pair starts. -/
theorem exists_finds_behind {message skipped rest : List Char} {cursor : Nat}
    (given : skipped ≠ []) (split : message.drop cursor = skipped ++ rest)
    (nothing : ∀ i, i < skipped.length → pair? ((skipped ++ rest).drop i) = none)
    (later : ∀ stop, message.drop stop = rest →
      ∃ hits, Finds message stop hits ∧ parts rest = cutUp message stop hits) :
    ∃ hits, Finds message cursor hits ∧
      addPlain skipped (parts rest) = cutUp message cursor hits := by
  have stop : message.drop (cursor + skipped.length) = rest := by
    rw [← List.drop_drop, split, List.drop_left]
  obtain ⟨hits, finds, same⟩ := later _ stop
  refine ⟨hits, finds.of_later (Nat.le_add_right ..) fun i behind before => ?_, ?_⟩
  · obtain ⟨n, rfl⟩ := Nat.exists_eq_add_of_le behind
    rw [← List.drop_drop, split]
    exact nothing n (Nat.lt_of_add_lt_add_left before)
  · rw [same, addPlain_cutUp given split finds.placed]

/-- No pair starts inside of a key that has no value. -/
theorem pair?_drop_run {run behind : List Char} (all : ∀ c ∈ run, isKeyChar c = true)
    (stops : Stops isKeyChar behind) (unsigned : signedLength behind = 0) {i : Nat}
    (inside : i < run.length) : pair? ((run ++ behind).drop i) = none := by
  have given : run.drop i ≠ [] := by
    rw [ne_eq, List.drop_eq_nil_iff]
    exact Nat.not_le_of_lt inside
  rw [List.drop_append_of_le_length inside.le,
    pair?_run given (fun c member => all c (List.mem_of_mem_drop member)) stops, if_pos unsigned]

/-- The cursor stops behind a pair that starts where it stands. -/
theorem exists_finds_at {message run behind : List Char} {cursor : Nat} (given : run ≠ [])
    (all : ∀ c ∈ run, isKeyChar c = true) (stops : Stops isKeyChar behind)
    (signed : signedLength behind ≠ 0) (split : message.drop cursor = run ++ behind)
    (later : ∀ stop, message.drop stop = behind.drop (signedLength behind + 1) →
      ∃ hits, Finds message stop hits ∧
        parts (behind.drop (signedLength behind + 1)) = cutUp message stop hits) :
    ∃ hits, Finds message cursor hits ∧
      .key run :: .sign :: .value run ((behind.drop 1).take (signedLength behind)) ::
        parts (behind.drop (signedLength behind + 1)) = cutUp message cursor hits := by
  have found := pair?_run given all stops
  rw [if_neg signed] at found
  let hit : Hit := ⟨cursor, run, (behind.drop 1).take (signedLength behind)⟩
  have isNext : IsNext message cursor hit :=
    ⟨Nat.le_refl _, split ▸ found, fun i late early => absurd late (Nat.not_le_of_lt early)⟩
  have stop : message.drop hit.stop = behind.drop (signedLength behind + 1) := by
    have whole : message.drop cursor = hit.text ++ behind.drop (signedLength behind + 1) := by
      rw [split, Hit.text, List.append_assoc]
      exact congrArg (run ++ ·) (text_signed signed _).symm
    rw [Hit.stop, ← List.drop_drop, whole, List.drop_left]
  obtain ⟨hits, finds, same⟩ := later hit.stop stop
  refine ⟨hit :: hits, .next isNext finds, ?_⟩
  rw [cutUp, between, if_neg (Nat.lt_irrefl _), same]
  rfl

/-- The scan for keys and values leaves the parts that the cursor leaves behind. -/
theorem exists_finds (message text : List Char) (cursor : Nat) (rest : message.drop cursor = text) :
    ∃ hits, Finds message cursor hits ∧ parts text = cutUp message cursor hits := by
  fun_induction parts text generalizing cursor with
  | case1 =>
      refine ⟨[], .nil fun i behind => ?_, ?_⟩
      · have nothing : message.drop i = [] :=
          List.drop_eq_nil_of_le ((List.drop_eq_nil_iff.1 rest).trans behind)
        rw [nothing]
        rfl
      · rw [cutUp, between, if_neg (Nat.not_lt_of_le (List.drop_eq_nil_iff.1 rest))]
  | case2 c more isKey key behind n unsigned ih =>
      have split : message.drop cursor = key ++ behind := by
        rw [rest, List.cons_append, List.takeWhile_append_dropWhile]
      have all : ∀ d ∈ key, isKeyChar d = true :=
        List.forall_mem_cons.2 ⟨isKey, fun d => List.mem_takeWhile_imp⟩
      refine exists_finds_behind (List.cons_ne_nil _ _) split (fun i inside => ?_) ih
      exact pair?_drop_run all (Text.stops_dropWhile _ _) unsigned inside
  | case3 c more isKey key behind n signed ih =>
      have split : message.drop cursor = key ++ behind := by
        rw [rest, List.cons_append, List.takeWhile_append_dropWhile]
      have all : ∀ d ∈ key, isKeyChar d = true :=
        List.forall_mem_cons.2 ⟨isKey, fun d => List.mem_takeWhile_imp⟩
      exact exists_finds_at (List.cons_ne_nil _ _) all (Text.stops_dropWhile _ _) signed split ih
  | case4 c more other ih =>
      have stops : Stops isKeyChar (c :: more) := Text.stops_cons (Bool.of_not_eq_true other)
      have split : message.drop cursor = [c] ++ more := rest
      refine exists_finds_behind (List.cons_ne_nil _ _) split (fun i inside => ?_) ih
      rw [Nat.lt_one_iff.1 inside]
      exact pair?_of_stops stops

theorem toList_write_of_debug {message : String} (cache : ConsoleCache) {call : LoggingCall}
    (notice : call.notice = .entry ⟨.debug, message⟩) (shown : call.preferences.debug = true)
    (colorless : ¬ call.IsColored) :
    (cache.write call).1.toList = Console.plain ("[debug] " ++ message).toList := by
  have text : call.shown? = some ("[debug] " ++ message) := by
    rw [LoggingCall.shown?, LoggingCall.message, notice]
    exact if_pos shown
  rw [LoggingCall.write_fst_eq, ← LoggingCall.written_eq,
    LoggingCall.toList_written_of_not_isColored colorless, text, Option.elim_some]

/-- The pieces of a debugging message behind its mark are those that the cursor leaves behind at the
matches of the pattern, which stand in the message one behind the other; put together they are the
message. The same holds of any other matches that stand in it so. Without colours a message that has
no tab and no character that is dropped is written as it is. -/
theorem debugging_message_is_whole (message : String) :
    (∃ pieces, Preferences.debugPieces message =
          ⟨Preferences.debugCodes, "[debug] ".toList⟩ :: pieces ∧
        pieces.flatMap Piece.text = message.toList ∧
        ∃ hits, Finds message.toList 0 hits ∧
          (∀ other, Finds message.toList 0 other → other = hits) ∧
          Placed message.toList 0 hits ∧
          pieces = (cutUp message.toList 0 hits).map fun part => ⟨part.codes, part.text⟩) ∧
      (∀ hits, Placed message.toList 0 hits →
        (cutUp message.toList 0 hits).flatMap Part.text = message.toList) ∧
      ∀ (cache : ConsoleCache) (call : LoggingCall), call.notice = .entry ⟨.debug, message⟩ →
        call.preferences.debug = true → ¬ call.IsColored → '\t' ∉ message.toList →
        (∀ c ∈ message.toList, Console.isDropped c = false) →
        (cache.write call).1 = "[debug] " ++ message ++ "\n" := by
  obtain ⟨hits, finds, same⟩ := exists_finds message.toList message.toList 0 rfl
  refine ⟨⟨pieces message.toList, rfl, text_pieces _, hits, finds, fun other finds' =>
    finds'.unique finds, finds.placed, ?_⟩, fun hits placed => text_cutUp placed, ?_⟩
  · rw [pieces, same]
  · intro cache call notice shown colorless tabless kept
    have mark : '\t' ∉ "[debug] ".toList ∧ "[debug] ".toList.any Console.isDropped = false := by
      decide
    have written := toList_write_of_debug cache notice shown colorless
    rw [Console.plain_of_tabless] at written
    · have feed : ['\n'] = "\n".toList := by decide
      rw [← String.toList_inj, written, feed]
      exact String.toList_append.symm
    · rw [String.toList_append, List.mem_append, not_or]
      exact ⟨mark.1, tabless⟩
    · rw [String.toList_append, List.forall_mem_append]
      exact ⟨Console.isDropped_of_any_eq_false mark.2, kept⟩

/-- A value between quotation marks with the next key right behind it, a value that holds a sign,
and a quotation mark that its line does not close. -/
theorem debugging_message_with_quotation_marks_is_whole :
    let message := "run cmd=\"a b\"x=1=2 k=\"c\n=d\""
    let hits : List Hit := [⟨4, "cmd".toList, "\"a b\"".toList⟩, ⟨13, "x".toList, "1=2".toList⟩,
      ⟨19, "k".toList, "\"c".toList⟩]
    let call : LoggingCall := ⟨{ debug := true }, false, .entry ⟨.debug, message⟩⟩
    Finds message.toList 0 hits ∧
      (∀ other, Finds message.toList 0 other → other = hits) ∧
      (cutUp message.toList 0 hits).flatMap Part.text = message.toList ∧
      (ConsoleCache.write [] call).1 = "[debug] run cmd=\"a b\"x=1=2 k=\"c\n=d\"\n" := by
  intro message hits call
  have silent : ∀ i, 23 ≤ i → pair? (message.toList.drop i) = none := by
    have inside : ∀ i, i < message.toList.length → 23 ≤ i →
        pair? (message.toList.drop i) = none := by decide +kernel
    intro i behind
    rcases Nat.lt_or_ge i message.toList.length with before | past
    · exact inside i before behind
    · rw [List.drop_eq_nil_of_le past]
      rfl
  have finds : Finds message.toList 0 hits :=
    .next ⟨by decide, by decide +kernel, by decide +kernel⟩ <|
      .next ⟨by decide, by decide +kernel, by decide +kernel⟩ <|
        .next ⟨by decide, by decide +kernel, by decide +kernel⟩ <| .nil silent
  obtain ⟨⟨pieces, -, -, found, -, unique, placed, -⟩, whole, asItIs⟩ :=
    debugging_message_is_whole message
  obtain rfl := unique hits finds
  have kept : message.toList.any Console.isDropped = false := by decide
  refine ⟨finds, unique, whole _ placed, asItIs [] call rfl rfl ?_ (by decide) ?_⟩
  · exact fun colors => Bool.false_ne_true colors.2
  · exact Console.isDropped_of_any_eq_false kept

end KeyValue

end LintBridge
