import LintBridge.Document
import LintBridge.Proofs.Text.Lines

/-!
# Looking up the lines of a document

The lines of a text stand between its line ends and behind the last of them, and are counted from
zero (`Text.IsLine`). A document looks its lines up under the wide convention
(`Document.looksUp_lineAt`). Editors have the same lines as long as these hold no separator that
ends a line under the wide convention only; from the first line with such a separator on the lines
are others (`Document.lines_agree_until_separator`).
-/
set_option autoImplicit false

namespace LintBridge

namespace Text

/-- A text that starts with a line end, and the rest behind it. A carriage return and a line feed
are one line end. -/
inductive StartsWithEnd (ends : Char → Bool) : List Char → List Char → Prop
  | pair (rest : List Char) : StartsWithEnd ends ('\r' :: '\n' :: rest) rest
  | single {c : Char} {rest : List Char} (ended : ends c = true)
      (alone : ∀ behind, c = '\r' → rest = '\n' :: behind → False) :
      StartsWithEnd ends (c :: rest) rest

/-- The line with an index from zero. -/
inductive IsLine (ends : Char → Bool) : List Char → Nat → List Char → Prop
  | last {line : List Char} (inside : ∀ c ∈ line, ends c = false) : IsLine ends line 0 line
  | ended {line text rest : List Char} (inside : ∀ c ∈ line, ends c = false)
      (stop : StartsWithEnd ends text rest) : IsLine ends (line ++ text) 0 line
  | behind {line text rest other : List Char} {n : Nat} (inside : ∀ c ∈ line, ends c = false)
      (stop : StartsWithEnd ends text rest) (next : IsLine ends rest n other) :
      IsLine ends (line ++ text) (n + 1) other

/-- What a look-up gives for an index: the line that has it, or nothing if no line does. -/
inductive LooksUp (ends : Char → Bool) (text : List Char) : Int → List Char → Prop
  | found {n : Nat} {line : List Char} (isLine : IsLine ends text n line) : LooksUp ends text n line
  | missing {i : Int} (none : ∀ (n : Nat) (line : List Char), i = n → ¬ IsLine ends text n line) :
      LooksUp ends text i []

/-! ## One convention -/

section

variable {ends : Char → Bool} {text line rest other : List Char} {n : Nat}

theorem IsLine.inside (isLine : IsLine ends text n line) : ∀ c ∈ line, ends c = false := by
  induction isLine with
  | last inside => exact inside
  | ended inside _ => exact inside
  | behind _ _ _ ih => exact ih

theorem StartsWithEnd.mem_of_mem (stop : StartsWithEnd ends text rest) {c : Char}
    (member : c ∈ rest) : c ∈ text := by
  cases stop with
  | pair => exact List.mem_cons_of_mem _ (List.mem_cons_of_mem _ member)
  | single => exact List.mem_cons_of_mem _ member

theorem IsLine.mem_of_mem (isLine : IsLine ends text n line) {c : Char} (member : c ∈ line) :
    c ∈ text := by
  induction isLine with
  | last => exact member
  | ended => exact List.mem_append_left _ member
  | behind _ stop _ ih => exact List.mem_append_right _ (stop.mem_of_mem (ih member))

/-- Characters that end no line belong to the first line of what follows them. -/
theorem IsLine.append_zero {front : List Char} (inner : ∀ c ∈ front, ends c = false)
    (isLine : IsLine ends text 0 line) : IsLine ends (front ++ text) 0 (front ++ line) := by
  cases isLine with
  | last inside => exact .last (List.forall_mem_append.2 ⟨inner, inside⟩)
  | ended inside stop =>
      rw [← List.append_assoc]
      exact .ended (List.forall_mem_append.2 ⟨inner, inside⟩) stop

theorem IsLine.append_succ {front : List Char} (inner : ∀ c ∈ front, ends c = false)
    (isLine : IsLine ends text (n + 1) line) : IsLine ends (front ++ text) (n + 1) line := by
  cases isLine with
  | behind inside stop next =>
      rw [← List.append_assoc]
      exact .behind (List.forall_mem_append.2 ⟨inner, inside⟩) stop next

theorem exists_startsWithEnd {c : Char} (ended : ends c = true) (rest : List Char) :
    ∃ behind, StartsWithEnd ends (c :: rest) behind := by
  by_cases pair : ∃ behind, c = '\r' ∧ rest = '\n' :: behind
  · obtain ⟨behind, rfl, rfl⟩ := pair
    exact ⟨behind, .pair behind⟩
  · exact ⟨rest, .single ended fun behind first second => pair ⟨behind, first, second⟩⟩

/-- Every text has a first line. -/
theorem exists_isLine_zero (ends : Char → Bool) (text : List Char) :
    ∃ line, IsLine ends text 0 line := by
  induction text with
  | nil => exact ⟨[], .last (List.forall_mem_nil _)⟩
  | cons c rest ih =>
      cases kind : ends c with
      | true =>
          obtain ⟨behind, stop⟩ := exists_startsWithEnd kind rest
          exact ⟨[], .ended (List.forall_mem_nil _) stop⟩
      | false =>
          obtain ⟨line, isLine⟩ := ih
          exact ⟨_, isLine.append_zero (List.forall_mem_singleton.2 kind)⟩

theorem isLine_of_getElem? (found : (splitLinesBy ends text)[n]? = some line) :
    IsLine ends text n line := by
  fun_induction splitLinesBy ends text generalizing n line with
  | case1 => cases found
  | case2 rest ih =>
      have stop : StartsWithEnd ends ('\r' :: '\n' :: rest) rest := .pair rest
      cases n with
      | zero =>
          obtain rfl := Option.some.inj found
          exact .ended (List.forall_mem_nil _) stop
      | succ n => exact .behind (List.forall_mem_nil _) stop (ih found)
  | case3 c rest alone kind ih =>
      have stop := StartsWithEnd.single kind alone
      cases n with
      | zero =>
          obtain rfl := Option.some.inj found
          exact .ended (List.forall_mem_nil _) stop
      | succ n => exact .behind (List.forall_mem_nil _) stop (ih found)
  | case4 c rest alone kind empty ih =>
      obtain rfl := eq_nil_of_splitLinesBy empty
      cases n with
      | zero =>
          obtain rfl := Option.some.inj found
          exact .last (List.forall_mem_singleton.2 (Bool.of_not_eq_true kind))
      | succ n => cases found
  | case5 c rest alone kind first more split ih =>
      have inner : ∀ d ∈ [c], ends d = false :=
        List.forall_mem_singleton.2 (Bool.of_not_eq_true kind)
      rw [split] at ih
      cases n with
      | zero =>
          obtain rfl := Option.some.inj found
          exact (ih (n := 0) rfl).append_zero inner
      | succ n => exact (ih (n := n + 1) found).append_succ inner

variable (carriageReturn : ends '\r' = true)

include carriageReturn

/-- A character that ends no line is no part of a pair either. -/
theorem splitLinesBy_cons_inner {c : Char} (inner : ends c = false) (rest : List Char) :
    splitLinesBy ends (c :: rest) =
      match splitLinesBy ends rest with
      | [] => [[c]]
      | line :: more => (c :: line) :: more := by
  have alone : ∀ behind, c = '\r' → rest = '\n' :: behind → False := by
    rintro _ rfl
    rw [carriageReturn] at inner
    cases inner
  rw [splitLinesBy_cons alone, inner]
  rfl

theorem splitLinesBy_ended (inside : ∀ c ∈ line, ends c = false)
    (stop : StartsWithEnd ends text rest) :
    splitLinesBy ends (line ++ text) = line :: splitLinesBy ends rest := by
  induction line with
  | nil =>
      rw [List.nil_append]
      cases stop with
      | pair => rw [splitLinesBy]
      | single ended alone => rw [splitLinesBy_cons alone, if_pos ended]
  | cons c line ih =>
      rw [List.forall_mem_cons] at inside
      rw [List.cons_append, splitLinesBy_cons_inner carriageReturn inside.1, ih inside.2]

theorem splitLinesBy_last (inside : ∀ c ∈ line, ends c = false) :
    (splitLinesBy ends line)[0]?.getD [] = line := by
  induction line with
  | nil => rfl
  | cons c line ih =>
      rw [List.forall_mem_cons] at inside
      have behind := ih inside.2
      rw [splitLinesBy_cons_inner carriageReturn inside.1]
      cases split : splitLinesBy ends line <;> rw [split] at behind <;> rw [← behind] <;> rfl

theorem IsLine.getD_eq (isLine : IsLine ends text n line) :
    (splitLinesBy ends text)[n]?.getD [] = line := by
  induction isLine with
  | last inside => exact splitLinesBy_last carriageReturn inside
  | ended inside stop =>
      rw [splitLinesBy_ended carriageReturn inside stop]
      rfl
  | behind inside stop _ ih =>
      rw [splitLinesBy_ended carriageReturn inside stop, List.getElem?_cons_succ, ih]

theorem IsLine.unique (isLine : IsLine ends text n line) (isLine' : IsLine ends text n other) :
    line = other :=
  (isLine.getD_eq carriageReturn).symm.trans (isLine'.getD_eq carriageReturn)

theorem LooksUp.eq_of_isLine (looksUp : LooksUp ends text n line)
    (isLine : IsLine ends text n other) : line = other := by
  generalize index : (n : Int) = i at looksUp
  cases looksUp with
  | found isLine' =>
      obtain rfl := Int.ofNat_inj.1 index
      exact isLine'.unique carriageReturn isLine
  | missing none => exact absurd isLine (none n other index.symm)

omit carriageReturn in
theorem LooksUp.eq_nil (looksUp : LooksUp ends text n line)
    (none : ∀ other, ¬ IsLine ends text n other) : line = [] := by
  generalize index : (n : Int) = i at looksUp
  cases looksUp with
  | found isLine =>
      obtain rfl := Int.ofNat_inj.1 index
      exact absurd isLine (none _)
  | missing => rfl

variable (ends text n) in
/-- The empty line behind the last line end is not listed, and what is not listed is empty. -/
theorem looksUp_getD : LooksUp ends text n ((splitLinesBy ends text)[n]?.getD []) := by
  by_cases has : ∃ line, IsLine ends text n line
  · obtain ⟨line, isLine⟩ := has
    rw [isLine.getD_eq carriageReturn]
    exact .found isLine
  · have missing : (splitLinesBy ends text)[n]? = none := by
      cases found : (splitLinesBy ends text)[n]? with
      | none => rfl
      | some line => exact absurd ⟨line, isLine_of_getElem? found⟩ has
    rw [missing]
    refine .missing fun m line same isLine => has ⟨line, ?_⟩
    rwa [Int.ofNat_inj.1 same]

end

/-- Every character that ends no line is on a line. -/
theorem exists_isLine_of_mem {ends : Char → Bool} (lineFeed : ends '\n' = true)
    (carriageReturn : ends '\r' = true) {text : List Char} {c : Char} (member : c ∈ text)
    (inner : ends c = false) : ∃ n line, IsLine ends text n line ∧ c ∈ line := by
  have listed : ∃ line ∈ splitLinesBy ends text, c ∈ line := by
    fun_induction splitLinesBy ends text with
    | case1 => cases member
    | case2 rest ih =>
        rw [List.mem_cons, List.mem_cons] at member
        rcases member with rfl | rfl | member
        · rw [carriageReturn] at inner
          cases inner
        · rw [lineFeed] at inner
          cases inner
        · obtain ⟨line, isLine, inLine⟩ := ih member
          exact ⟨line, List.mem_cons_of_mem _ isLine, inLine⟩
    | case3 d rest alone kind ih =>
        rcases List.mem_cons.1 member with rfl | member
        · rw [kind] at inner
          cases inner
        · obtain ⟨line, isLine, inLine⟩ := ih member
          exact ⟨line, List.mem_cons_of_mem _ isLine, inLine⟩
    | case4 d rest alone kind empty ih =>
        obtain rfl := eq_nil_of_splitLinesBy empty
        exact ⟨[d], List.mem_cons_self .., member⟩
    | case5 d rest alone kind first more split ih =>
        rw [split] at ih
        rcases List.mem_cons.1 member with rfl | member
        · exact ⟨_, List.mem_cons_self .., List.mem_cons_self ..⟩
        · obtain ⟨line, isLine, inLine⟩ := ih member
          rcases List.mem_cons.1 isLine with rfl | isLine
          · exact ⟨_, List.mem_cons_self .., List.mem_cons_of_mem _ inLine⟩
          · exact ⟨line, List.mem_cons_of_mem _ isLine, inLine⟩
  obtain ⟨line, isLine, inLine⟩ := listed
  obtain ⟨n, found⟩ := List.mem_iff_getElem?.1 isLine
  exact ⟨n, line, isLine_of_getElem? found, inLine⟩

/-! ## Editors and the wide convention -/

theorem isLineEnd_of_isHostLineEnd {c : Char} (ended : isHostLineEnd c = true) :
    isLineEnd c = true := by
  rw [isHostLineEnd, Bool.or_eq_true, beq_iff_eq, beq_iff_eq] at ended
  rcases ended with rfl | rfl <;> rfl

theorem StartsWithEnd.widen {text rest : List Char} (stop : StartsWithEnd isHostLineEnd text rest) :
    StartsWithEnd isLineEnd text rest := by
  cases stop with
  | pair => exact .pair rest
  | single ended alone => exact .single (isLineEnd_of_isHostLineEnd ended) alone

/-- The lines that an editor has up to an index, without any separator on them. -/
def AreUnbroken (text : List Char) (n : Nat) : Prop :=
  ∀ m ≤ n, ∀ line, IsLine isHostLineEnd text m line → ∀ c ∈ line, isLineEnd c = false

theorem AreUnbroken.behind {line text rest : List Char} {n : Nat}
    (unbroken : AreUnbroken (line ++ text) (n + 1)) (inside : ∀ c ∈ line, isHostLineEnd c = false)
    (stop : StartsWithEnd isHostLineEnd text rest) : AreUnbroken rest n :=
  fun m le _ isLine => unbroken (m + 1) (Nat.succ_le_succ le) _ (.behind inside stop isLine)

theorem IsLine.widen {text line : List Char} {n : Nat} (isLine : IsLine isHostLineEnd text n line)
    (unbroken : AreUnbroken text n) : IsLine isLineEnd text n line := by
  induction isLine with
  | last inside => exact .last (unbroken 0 (Nat.le_refl 0) _ (.last inside))
  | ended inside stop =>
      exact .ended (unbroken 0 (Nat.le_refl 0) _ (.ended inside stop)) stop.widen
  | behind inside stop _ ih =>
      have first := unbroken 0 (Nat.zero_le _) _ (.ended inside stop)
      exact .behind first stop.widen (ih (unbroken.behind inside stop))

/-- A first line without separators ends for an editor where it ends under the wide convention. -/
theorem StartsWithEnd.narrow {line text rest : List Char} (stop : StartsWithEnd isLineEnd text rest)
    (inside : ∀ c ∈ line, isHostLineEnd c = false) (unbroken : AreUnbroken (line ++ text) 0) :
    StartsWithEnd isHostLineEnd text rest := by
  cases stop with
  | pair => exact .pair rest
  | @single c rest ended alone =>
      refine .single ?_ alone
      by_contra other
      -- Otherwise the line goes on for an editor, with this separator on it.
      have inner : isHostLineEnd c = false := Bool.of_not_eq_true other
      obtain ⟨more, isLine⟩ := exists_isLine_zero isHostLineEnd rest
      have longer := (isLine.append_zero (List.forall_mem_singleton.2 inner)).append_zero inside
      have broken := unbroken 0 (Nat.le_refl 0) _ longer c (by simp)
      rw [ended] at broken
      cases broken

theorem forall_isHostLineEnd_eq_false {line : List Char}
    (inside : ∀ c ∈ line, isLineEnd c = false) : ∀ c ∈ line, isHostLineEnd c = false := by
  intro c member
  by_contra ended
  have wide := isLineEnd_of_isHostLineEnd (Bool.of_not_eq_false ended)
  rw [inside c member] at wide
  cases wide

theorem IsLine.exists_narrow {text line : List Char} {n : Nat}
    (isLine : IsLine isLineEnd text n line) (unbroken : AreUnbroken text n) :
    ∃ line', IsLine isHostLineEnd text n line' := by
  induction isLine with
  | last inside => exact ⟨_, .last (forall_isHostLineEnd_eq_false inside)⟩
  | ended inside stop =>
      have inside' := forall_isHostLineEnd_eq_false inside
      exact ⟨_, .ended inside' (stop.narrow inside' unbroken)⟩
  | behind inside stop _ ih =>
      have inside' := forall_isHostLineEnd_eq_false inside
      have first := fun m le => unbroken m (Nat.le_trans le (Nat.zero_le _))
      have stop' := stop.narrow inside' first
      obtain ⟨other, isLine'⟩ := ih (unbroken.behind inside' stop')
      exact ⟨other, .behind inside' stop' isLine'⟩

end Text

namespace Document

open Text

theorem looksUp_lineAt (d : Document) (i : Int) :
    LooksUp isLineEnd d.text.toList i (d.lineAt i).toList := by
  rw [lineAt]
  split_ifs with below
  · refine .missing fun n line same => ?_
    omega
  · obtain ⟨n, rfl⟩ := Int.eq_ofNat_of_zero_le (Int.not_lt.1 below)
    rw [String.toList_ofList]
    exact looksUp_getD isLineEnd d.text.toList n rfl

/-- Up to the first line with a separator the lines are those of an editor. -/
theorem looksUp_host_of_areUnbroken (d : Document) {n : Nat}
    (unbroken : AreUnbroken d.text.toList n) :
    LooksUp isHostLineEnd d.text.toList n (d.lineAt n).toList := by
  have wide := d.looksUp_lineAt n
  by_cases has : ∃ line, IsLine isHostLineEnd d.text.toList n line
  · obtain ⟨line, isLine⟩ := has
    rw [wide.eq_of_isLine rfl (isLine.widen unbroken)]
    exact .found isLine
  · have none : ∀ other, ¬ IsLine isLineEnd d.text.toList n other :=
      fun other isLine => has (isLine.exists_narrow unbroken)
    rw [wide.eq_nil none]
    refine .missing fun m line same isLine => has ⟨line, ?_⟩
    rwa [Int.ofNat_inj.1 same]

/-- What is looked up never holds a separator, while a line of an editor may. -/
theorem isLineEnd_eq_false_of_mem_lineAt (d : Document) (i : Int) :
    ∀ c ∈ (d.lineAt i).toList, isLineEnd c = false := by
  generalize line : (d.lineAt i).toList = chars
  have looksUp := d.looksUp_lineAt i
  rw [line] at looksUp
  cases looksUp with
  | found isLine => exact isLine.inside
  | missing => exact List.forall_mem_nil _

/-- For every index the line is looked up that has it under the wide convention, and nothing for an
index below zero or behind the last line. The lines up to an index are those of an editor exactly if
these hold no separator that ends lines under the wide convention only; so all of them are exactly
if there is none in the text. -/
theorem lines_agree_until_separator (d : Document) :
    (∀ i, LooksUp isLineEnd d.text.toList i (d.lineAt i).toList) ∧
      (∀ n : Nat,
        (∀ m ≤ n, LooksUp isHostLineEnd d.text.toList m (d.lineAt m).toList) ↔
          AreUnbroken d.text.toList n) ∧
      ((∀ i, LooksUp isHostLineEnd d.text.toList i (d.lineAt i).toList) ↔
        ∀ c ∈ d.text.toList, isLineEnd c = true → isHostLineEnd c = true) := by
  have upTo (n : Nat) : (∀ m ≤ n, LooksUp isHostLineEnd d.text.toList m (d.lineAt m).toList) ↔
      AreUnbroken d.text.toList n := by
    constructor
    · intro agree m le line isLine
      rw [← (agree m le).eq_of_isLine rfl isLine]
      exact d.isLineEnd_eq_false_of_mem_lineAt m
    · intro unbroken m le
      exact d.looksUp_host_of_areUnbroken fun k below => unbroken k (Nat.le_trans below le)
  refine ⟨d.looksUp_lineAt, upTo, ?_, ?_⟩
  · intro agree c member wide
    by_contra other
    obtain ⟨n, line, isLine, inLine⟩ :=
      exists_isLine_of_mem rfl rfl member (Bool.of_not_eq_true other)
    have unbroken := (upTo n).1 fun m _ => agree m
    rw [unbroken n (Nat.le_refl n) line isLine c inLine] at wide
    cases wide
  · intro only i
    rcases Int.lt_or_le i 0 with below | above
    · have empty : d.lineAt i = "" := if_pos below
      rw [empty]
      refine .missing fun n line same => ?_
      omega
    · obtain ⟨n, rfl⟩ := Int.eq_ofNat_of_zero_le above
      refine (upTo n).2 (fun m _ line isLine c member => ?_) n (Nat.le_refl n)
      by_contra wide
      have ended := only c (isLine.mem_of_mem member) (Bool.of_not_eq_false wide)
      rw [isLine.inside c member] at ended
      cases ended

example : (Document.mk "" "a\x0bb\nc" "").lineAt 1 = "b" := by decide +kernel

end Document

end LintBridge
