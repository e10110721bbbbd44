import AwkEdit.Proofs.Source.Columns
import AwkEdit.Proofs.Tree.Laminar
import AwkEdit.Proofs.Tree.Occurrences

/-!
# Placing the leaves of a literal

A literal becomes a tree leaf by leaf: a token is placed at its earliest occurrence after the tokens before it, a missing leaf
where the token before it ends, and a node spans its children. What one literal is placed as and what several are placed as, one
after another, is said by the same facts (`Placed`), which a leaf establishes, which carry over from children to their node, and
which add up from left to right; so placing succeeds exactly when the tokens can be placed at all, and what results makes sense
without being checked (`build_placed`).
-/

namespace AwkEdit

/-! ## Leaves of a tree -/

namespace Node

/-- The nodes without children, in document order. -/
def leaves (n : Node) : List Node := n.preorder.filter (·.children.isEmpty)

/-- The node starts where its first leaf does and stops where its last one does. -/
def SpansLeaves (n : Node) : Prop :=
  n.leaves.head?.map (·.start) = some n.start ∧ n.leaves.getLast?.map (·.stop) = some n.stop

theorem preorderList_eq_flatMap (cs : List Node) : preorder.preorderList cs = cs.flatMap preorder := by
  induction cs with
  | nil => rfl
  | cons c cs ih => rw [preorder.preorderList, ih, List.flatMap_cons]

/-- The leaves of a node with children are those of its children. -/
theorem leaves_mk {l : Label} {cs : List Node} (h : cs ≠ []) : (mk l cs).leaves = cs.flatMap leaves := by
  have hne : (mk l cs).children.isEmpty = false := List.isEmpty_eq_false_iff.2 h
  rw [leaves, preorder, preorderList_eq_flatMap, List.filter_cons_of_neg (by rw [hne]; exact Bool.false_ne_true),
    List.filter_flatMap]
  rfl

theorem mem_preorder (n : Node) : n ∈ n.preorder := by
  cases n
  exact List.mem_cons_self

/-- Where the last token among leaves ends, if there is one, and otherwise where the one before them does. -/
def tokenEnd (before : Int) (leaves : List Node) : Int :=
  leaves.foldl (fun last n => if n.label.missing then last else n.stop) before

end Node

namespace TreeLiteral

theorem encode_ne_nil {text : String} (h : text ≠ "") : Utf8.encode text.toList ≠ [] := by
  obtain ⟨c, cs, hchars⟩ := List.exists_cons_of_ne_nil (l := text.toList) (by simpa using h)
  obtain ⟨b, rest, hc, -⟩ := Utf8.head_utf8EncodeChar c
  rw [hchars, Utf8.encode, List.flatMap_cons, hc]
  exact List.cons_ne_nil _ _

/-- What occurs at an offset is the slice from there on. -/
theorem OccursAt.slice_eq {source : Source} {needle : List UInt8} {i : Nat} (h : OccursAt source.bytes needle i)
    (hend : i + needle.length ≤ source.size) : source.slice i (i + needle.length) = needle := by
  have hstop := Source.bound_natCast hend
  rw [Int.natCast_add] at hstop
  rw [Source.slice, Source.bound_natCast (by omega), hstop, Source.between_eq, List.drop_take, Nat.add_sub_cancel_left]
  exact (List.prefix_iff_eq_take.1 h).symm

/-! ## Parts of a literal -/

mutual

/-- The literal and what it is made of, in document order. -/
def parts : TreeLiteral → List TreeLiteral
  | leaf type text field named => [leaf type text field named]
  | missing type field => [missing type field]
  | unsupported shown => [unsupported shown]
  | node type field named children => node type field named children :: partsAll children

/-- What several literals are made of. -/
def partsAll : List TreeLiteral → List TreeLiteral
  | [] => []
  | c :: cs => c.parts ++ partsAll cs

end

theorem mem_parts (l : TreeLiteral) : l ∈ l.parts := by
  cases l <;> exact List.mem_cons_self

/-- Whether the literal is a token or a missing leaf. -/
def isLeaf : TreeLiteral → Bool
  | leaf .. | missing .. => true
  | node .. | unsupported _ => false

/-- The leaves of the literal in document order. -/
def leaves (l : TreeLiteral) : List TreeLiteral := l.parts.filter isLeaf

/-- The bytes of a token. -/
def token? : TreeLiteral → Option (List UInt8)
  | leaf _ text _ _ => some (Utf8.encode text.toList)
  | _ => none

/-- The bytes of the tokens of the literal in document order. -/
def tokens (l : TreeLiteral) : List (List UInt8) := l.leaves.filterMap token?

/-- A part that a tree can have: a token with a text, a missing leaf, or a node with children. -/
def Proper : TreeLiteral → Prop
  | leaf _ text _ _ => text ≠ ""
  | missing .. => True
  | node _ _ _ children => children ≠ []
  | unsupported _ => False

theorem partsAll_eq_flatMap (cs : List TreeLiteral) : partsAll cs = cs.flatMap parts := by
  induction cs with
  | nil => rfl
  | cons c cs ih => rw [partsAll, ih, List.flatMap_cons]

theorem leaves_node (type : String) (field : Option String) (named : Bool) (children : List TreeLiteral) :
    (node type field named children).leaves = children.flatMap leaves := by
  rw [leaves, parts, partsAll_eq_flatMap, List.filter_cons_of_neg Bool.false_ne_true, List.filter_flatMap]
  rfl

theorem tokens_node (type : String) (field : Option String) (named : Bool) (children : List TreeLiteral) :
    (node type field named children).tokens = children.flatMap tokens := by
  rw [tokens, leaves_node, List.filterMap_flatMap]
  rfl

/-! ## What a literal says of its tree -/

mutual

/-- The node is what the literal says, as far as it says anything: it has the shape, the types, the fields and the flags. -/
def Describes : TreeLiteral → Node → Prop
  | leaf type _ field named, .mk l cs => l.type = type ∧ l.field = field ∧ l.named = named ∧ l.missing = false ∧ cs = []
  | missing type field, .mk l cs => l.type = type ∧ l.field = field ∧ l.named = false ∧ l.missing = true ∧ cs = []
  | node type field named children, .mk l cs =>
    l.type = type ∧ l.field = field ∧ l.named = named ∧ l.missing = false ∧ DescribesAll children cs
  | unsupported _, _ => False

/-- The nodes are what the literals say, one by one. -/
def DescribesAll : List TreeLiteral → List Node → Prop
  | [], [] => True
  | c :: cs, n :: ns => c.Describes n ∧ DescribesAll cs ns
  | _, _ => False

end

theorem DescribesAll.append {ls ls' : List TreeLiteral} {ns ns' : List Node} (h : DescribesAll ls ns)
    (h' : DescribesAll ls' ns') : DescribesAll (ls ++ ls') (ns ++ ns') := by
  induction ls generalizing ns with
  | nil =>
    cases ns with
    | nil => exact h'
    | cons n ns => exact absurd h not_false
  | cons l ls ih =>
    cases ns with
    | nil => exact absurd h not_false
    | cons n ns => exact ⟨h.1, ih h.2⟩

/-- The node covers exactly the text, no earlier than the cursor, and as early as the text occurs from there on. -/
structure Covers (source : Source) (cursor : Int) (text : String) (n : Node) : Prop where
  exact : source.slice n.start n.stop = Utf8.encode text.toList
  after : cursor ≤ n.start
  first : ∀ i : Nat, cursor ≤ i → OccursAt source.bytes (Utf8.encode text.toList) i → n.start ≤ i

/-- The node stands where the leaf belongs, when the token before it ends at the cursor: a token covers its text, and a missing
leaf is empty. -/
def Seats (source : Source) (cursor : Int) : TreeLiteral → Node → Prop
  | leaf _ text _ _, n => Covers source cursor text n
  | missing .., n => n.start = cursor ∧ n.stop = cursor
  | node .., _ | unsupported _, _ => False

/-- The nodes stand where the leaves belong, one after another. -/
def SeatsAll (source : Source) (cursor : Int) : List TreeLiteral → List Node → Prop
  | [], [] => True
  | l :: ls, n :: ns => Seats source cursor l n ∧ SeatsAll source (Node.tokenEnd cursor [n]) ls ns
  | _, _ => False

variable {source : Source} {cursor : Int}

theorem SeatsAll.append {ls ls' : List TreeLiteral} {ns ns' : List Node} (h : SeatsAll source cursor ls ns)
    (h' : SeatsAll source (Node.tokenEnd cursor ns) ls' ns') : SeatsAll source cursor (ls ++ ls') (ns ++ ns') := by
  induction ls generalizing cursor ns with
  | nil =>
    cases ns with
    | nil => exact h'
    | cons n ns => exact absurd h not_false
  | cons l ls ih =>
    cases ns with
    | nil => exact absurd h not_false
    | cons n ns => exact ⟨h.1, ih h.2 h'⟩

theorem SeatsAll.length {ls : List TreeLiteral} {ns : List Node} (h : SeatsAll source cursor ls ns) :
    ns.length = ls.length := by
  induction ls generalizing cursor ns with
  | nil =>
    cases ns with
    | nil => rfl
    | cons n ns => exact absurd h not_false
  | cons l ls ih =>
    cases ns with
    | nil => exact absurd h not_false
    | cons n ns => exact congrArg (· + 1) (ih h.2)

/-- Each of the nodes stands where its leaf belongs after the nodes before it. -/
theorem SeatsAll.seats {ls : List TreeLiteral} {ns : List Node} (h : SeatsAll source cursor ls ns) {i : Nat} {l : TreeLiteral}
    {n : Node} (hl : ls[i]? = some l) (hn : ns[i]? = some n) : Seats source (Node.tokenEnd cursor (ns.take i)) l n := by
  induction ls generalizing cursor ns i with
  | nil => cases hl
  | cons first ls ih =>
    cases ns with
    | nil => cases hn
    | cons m ns =>
      cases i with
      | zero =>
        obtain rfl := Option.some.inj hl
        obtain rfl := Option.some.inj hn
        exact h.1
      | succ i => exact ih h.2 hl hn

/-! ## Literals that are placed -/

/-- The nodes are what literals are placed as from a cursor on, up to where the last token ends: they are what the literals say,
stand where their leaves belong, make sense, come one after another and span their leaves; and whatever tokens come after those of
the literals can be placed together with them exactly when they can be placed from that end on. -/
structure Placed (source : Source) (cursor : Nat) (ls : List TreeLiteral) (ns : List Node) (stop : Nat) : Prop where
  described : DescribesAll ls ns
  seated : SeatsAll source cursor (ls.flatMap leaves) (ns.flatMap Node.leaves)
  ended : Node.tokenEnd cursor (ns.flatMap Node.leaves) = stop
  bounded : cursor ≤ stop ∧ stop ≤ source.size
  valid : ∀ n ∈ ns, n.Valid source.size
  inside : ∀ n ∈ ns, (cursor : Int) ≤ n.start ∧ n.stop ≤ stop
  apart : ns.Pairwise fun a b => a.stop ≤ b.start
  last : ∀ n ∈ ns.getLast?, n.stop = stop
  spans : ∀ n ∈ ns, ∀ m ∈ n.preorder, m.SpansLeaves
  placeable : ∀ rest, PlaceableFrom source.bytes cursor (ls.flatMap tokens ++ rest) ↔ PlaceableFrom source.bytes stop rest

namespace Placed

variable {cursor middle stop : Nat} {ls ls' : List TreeLiteral} {ns ns' : List Node}

theorem nil (h : cursor ≤ source.size) : Placed source cursor [] [] cursor where
  described := trivial
  seated := trivial
  ended := rfl
  bounded := ⟨Nat.le_refl _, h⟩
  valid := List.forall_mem_nil _
  inside := List.forall_mem_nil _
  apart := .nil
  last := by simp
  spans := List.forall_mem_nil _
  placeable _ := .rfl

/-- Literals are placed one after another. -/
theorem append (h : Placed source cursor ls ns middle) (h' : Placed source middle ls' ns' stop) :
    Placed source cursor (ls ++ ls') (ns ++ ns') stop where
  described := h.described.append h'.described
  seated := by
    rw [List.flatMap_append, List.flatMap_append]
    refine h.seated.append ?_
    rw [h.ended]
    exact h'.seated
  ended := by
    rw [List.flatMap_append, Node.tokenEnd, List.foldl_append]
    exact (congrArg (Node.tokenEnd · _) h.ended).trans h'.ended
  bounded := ⟨Nat.le_trans h.bounded.1 h'.bounded.1, h'.bounded.2⟩
  valid := List.forall_mem_append.2 ⟨h.valid, h'.valid⟩
  inside := by
    have hleft := h.bounded.1
    have hright := h'.bounded.1
    refine List.forall_mem_append.2 ⟨fun n hn => ?_, fun n hn => ?_⟩
    · have := h.inside n hn
      omega
    · have := h'.inside n hn
      omega
  apart := by
    refine List.pairwise_append.2 ⟨h.apart, h'.apart, fun a ha b hb => ?_⟩
    exact Int.le_trans (h.inside a ha).2 (h'.inside b hb).1
  last := by
    intro n hn
    rw [List.getLast?_append, Option.mem_def, Option.or_eq_some_iff] at hn
    rcases hn with hn | ⟨hnone, hn⟩
    · exact h'.last n hn
    · obtain rfl := List.getLast?_eq_none_iff.1 hnone
      rw [h.last n hn]
      exact h'.ended
  spans := List.forall_mem_append.2 ⟨h.spans, h'.spans⟩
  placeable rest := by
    rw [List.flatMap_append, List.append_assoc, h.placeable, h'.placeable]

/-- A token is placed at its earliest occurrence. -/
theorem leaf {type text : String} {field : Option String} {named : Bool} {i : Nat} (hne : text ≠ "")
    (h : Earliest source.bytes (Utf8.encode text.toList) cursor i) :
    Placed source cursor [.leaf type text field named]
      [.mk ⟨type, i, i + (Utf8.encode text.toList).length, field, named, false⟩ []] (i + (Utf8.encode text.toList).length) := by
  have hafter := h.after
  have hend : i + (Utf8.encode text.toList).length ≤ source.size := h.occurs.end_le (encode_ne_nil hne)
  exact {
    described := ⟨⟨rfl, rfl, rfl, rfl, rfl⟩, trivial⟩
    seated := by
      refine ⟨⟨h.occurs.slice_eq hend, Int.ofNat_le.2 hafter, fun j hj hoccurs => ?_⟩, trivial⟩
      exact Int.ofNat_le.2 (h.first j (Int.ofNat_le.1 hj) hoccurs)
    ended := rfl
    bounded := ⟨by omega, hend⟩
    valid := List.forall_mem_singleton.2 ⟨by simp only; omega, by simp only; omega, trivial, trivial⟩
    inside := List.forall_mem_singleton.2 ⟨Int.ofNat_le.2 hafter, Int.le_refl _⟩
    apart := List.pairwise_singleton _ _
    last := fun n hn => by
      rw [← Option.some.inj hn]
      rfl
    spans := List.forall_mem_singleton.2 (List.forall_mem_singleton.2 ⟨rfl, rfl⟩)
    placeable := fun _ => placeableFrom_cons_of_earliest h }

/-- A missing leaf is placed at the cursor. -/
theorem missing {type : String} {field : Option String} (h : cursor ≤ source.size) :
    Placed source cursor [.missing type field] [.mk ⟨type, cursor, cursor, field, false, true⟩ []] cursor where
  described := ⟨⟨rfl, rfl, rfl, rfl, rfl⟩, trivial⟩
  seated := ⟨⟨rfl, rfl⟩, trivial⟩
  ended := rfl
  bounded := ⟨Nat.le_refl _, h⟩
  valid := List.forall_mem_singleton.2 ⟨Int.le_refl _, Int.ofNat_le.2 h, trivial, trivial⟩
  inside := List.forall_mem_singleton.2 ⟨Int.le_refl _, Int.le_refl _⟩
  apart := List.pairwise_singleton _ _
  last n hn := by
    rw [← Option.some.inj hn]
    rfl
  spans := List.forall_mem_singleton.2 (List.forall_mem_singleton.2 ⟨rfl, rfl⟩)
  placeable _ := .rfl

/-- The span of nodes that come one after another. -/
theorem foldl_span {low high : Int} {cs : List Node} (hlow : low ≤ high) (hcs : ∀ c ∈ cs, high ≤ c.start ∧ c.start ≤ c.stop)
    (hapart : cs.Pairwise fun a b => a.stop ≤ b.start) :
    cs.foldl (fun (low, high) c => (min low c.start, max high c.stop)) (low, high) =
      (low, (cs.getLast?.map (·.stop)).getD high) := by
  induction cs generalizing high with
  | nil => rfl
  | cons c cs ih =>
    obtain ⟨⟨hstart, hstop⟩, hrest⟩ := List.forall_mem_cons.1 hcs
    obtain ⟨hafter, hapart⟩ := List.pairwise_cons.1 hapart
    have hmin : min low c.start = low := Int.min_eq_left (Int.le_trans hlow hstart)
    have hmax : max high c.stop = c.stop := Int.max_eq_right (Int.le_trans hstart hstop)
    simp only [List.foldl_cons, hmin, hmax]
    rw [ih (Int.le_trans hlow (Int.le_trans hstart hstop)) (fun d hd => ⟨hafter d hd, (hrest d hd).2⟩) hapart,
      List.getLast?_cons]
    cases cs.getLast? <;> rfl

/-- What is placed spans from where its first node starts to where its last token ends. -/
theorem span_eq {first : Node} {rest : List Node} (h : Placed source cursor ls (first :: rest) stop) :
    span first rest = (first.start, (stop : Int)) := by
  have hvalid : ∀ n ∈ first :: rest, n.start ≤ n.stop := fun n hn => (h.valid n hn).start_le_stop
  rw [List.forall_mem_cons] at hvalid
  obtain ⟨hafter, hapart⟩ := List.pairwise_cons.1 h.apart
  have hlast : (rest.getLast?.getD first).stop = stop := h.last _ (by rw [List.getLast?_cons]; rfl)
  refine (foldl_span hvalid.1 (fun c hc => ⟨hafter c hc, hvalid.2 c hc⟩) hapart).trans ?_
  rw [← hlast]
  cases rest.getLast? <;> rfl

/-- The leaves of what is placed start where its first node starts and stop where its last token ends. -/
theorem spansLeaves {first : Node} {rest : List Node} (h : Placed source cursor ls (first :: rest) stop) {l : Label}
    (hstart : l.start = first.start) (hstop : l.stop = stop) : (Node.mk l (first :: rest)).SpansLeaves := by
  rw [Node.SpansLeaves, Node.leaves_mk (List.cons_ne_nil _ _)]
  constructor
  · obtain ⟨leaf, hleaf, hfirst⟩ := Option.map_eq_some_iff.1 (h.spans first List.mem_cons_self first (Node.mem_preorder first)).1
    rw [List.flatMap_cons, List.head?_append, hleaf]
    exact congrArg some (hfirst.trans hstart.symm)
  · obtain hnil | ⟨init, last, hsplit⟩ := List.eq_nil_or_concat' (first :: rest)
    · exact absurd hnil (List.cons_ne_nil _ _)
    · have hmem : last ∈ first :: rest := by
        rw [hsplit]
        exact List.mem_concat_self
      obtain ⟨leaf, hleaf, hlast⟩ := Option.map_eq_some_iff.1 (h.spans last hmem last (Node.mem_preorder last)).2
      have hend : last.stop = stop := h.last last (by rw [hsplit, List.getLast?_concat]; rfl)
      rw [hsplit, List.flatMap_append, List.flatMap_singleton, List.getLast?_append, hleaf]
      exact congrArg some ((hlast.trans hend).trans hstop.symm)

/-- A node is placed as what its children are placed as, which it spans. -/
theorem node {type : String} {field : Option String} {named : Bool} {first : Node} {rest : List Node}
    (h : Placed source cursor ls (first :: rest) stop) :
    Placed source cursor [.node type field named ls]
      [.mk ⟨type, first.start, stop, field, named, false⟩ (first :: rest)] stop := by
  have hafter := (List.pairwise_cons.1 h.apart).1
  have hfirst : ∀ c ∈ first :: rest, first.start ≤ c.start := by
    refine List.forall_mem_cons.2 ⟨Int.le_refl _, fun c hc => ?_⟩
    exact Int.le_trans (h.valid first List.mem_cons_self).start_le_stop (hafter c hc)
  have hinside := h.inside first List.mem_cons_self
  exact {
    described := ⟨⟨rfl, rfl, rfl, rfl, h.described⟩, trivial⟩
    seated := by
      rw [List.flatMap_singleton, List.flatMap_singleton, leaves_node, Node.leaves_mk (List.cons_ne_nil _ _)]
      exact h.seated
    ended := by
      rw [List.flatMap_singleton, Node.leaves_mk (List.cons_ne_nil _ _)]
      exact h.ended
    bounded := h.bounded
    valid := by
      refine List.forall_mem_singleton.2 ⟨?_, Int.ofNat_le.2 h.bounded.2, ?_, Node.validAll_of_forall h.valid⟩
      · exact Int.le_trans (h.valid first List.mem_cons_self).start_le_stop hinside.2
      · exact Node.laid_of_pairwise (fun c hc => ⟨hfirst c hc, (h.inside c hc).2⟩) hfirst h.apart
    inside := List.forall_mem_singleton.2 ⟨hinside.1, Int.le_refl _⟩
    apart := List.pairwise_singleton _ _
    last := fun n hn => by
      rw [← Option.some.inj hn]
      rfl
    spans := by
      rw [List.forall_mem_singleton, Node.preorder, Node.preorderList_eq_flatMap, List.forall_mem_cons, List.forall_mem_flatMap]
      exact ⟨h.spansLeaves rfl rfl, h.spans⟩
    placeable := by
      rw [List.flatMap_singleton, tokens_node]
      exact h.placeable }

end Placed

/-- The literals cannot be placed from the cursor on, whatever tokens come after theirs, and the error names one of their
tokens. -/
structure Unplaceable (source : Source) (cursor : Nat) (ls : List TreeLiteral) (e : TreeError) : Prop where
  named : ∃ type text field named after, leaf type text field named ∈ ls.flatMap leaves ∧ e = .tokenNotFound text type after
  unplaceable : ∀ rest, ¬PlaceableFrom source.bytes cursor (ls.flatMap tokens ++ rest)

namespace Unplaceable

variable {cursor middle : Nat} {ls ls' : List TreeLiteral} {ns : List Node} {e : TreeError}

/-- A token cannot be placed where it is not found. -/
theorem leaf {type text : String} {field : Option String} {named : Bool}
    (h : find (Utf8.encode text.toList) cursor (source.bytes.drop cursor) = none) :
    Unplaceable source cursor [.leaf type text field named] (.tokenNotFound text type cursor) where
  named := ⟨type, text, field, named, cursor, List.mem_singleton_self _, rfl⟩
  unplaceable rest hrest := by
    obtain ⟨i, hi, hoccurs, -⟩ := placeableFrom_cons_iff.1 hrest
    exact not_occursAt_of_find_drop h hi hoccurs

/-- What cannot be placed cannot be placed with more after it. -/
theorem append (h : Unplaceable source cursor ls e) : Unplaceable source cursor (ls ++ ls') e where
  named := by
    obtain ⟨type, text, field, named, after, hmem, he⟩ := h.named
    rw [List.flatMap_append]
    exact ⟨type, text, field, named, after, List.mem_append_left _ hmem, he⟩
  unplaceable rest := by
    rw [List.flatMap_append, List.append_assoc]
    exact h.unplaceable _

/-- What cannot be placed after what is placed cannot be placed together with it. -/
theorem after (hplaced : Placed source cursor ls ns middle) (h : Unplaceable source middle ls' e) :
    Unplaceable source cursor (ls ++ ls') e where
  named := by
    obtain ⟨type, text, field, named, after, hmem, he⟩ := h.named
    rw [List.flatMap_append]
    exact ⟨type, text, field, named, after, List.mem_append_right _ hmem, he⟩
  unplaceable rest := by
    rw [List.flatMap_append, List.append_assoc, hplaced.placeable]
    exact h.unplaceable rest

/-- A node cannot be placed when its children cannot. -/
theorem node {type : String} {field : Option String} {named : Bool} (h : Unplaceable source cursor ls e) :
    Unplaceable source cursor [.node type field named ls] e where
  named := by
    rw [List.flatMap_singleton, leaves_node]
    exact h.named
  unplaceable := by
    rw [List.flatMap_singleton, tokens_node]
    exact h.unplaceable

end Unplaceable

mutual

/-- A literal of proper parts is placed, or cannot be. -/
theorem place_cases (source : Source) : (l : TreeLiteral) → (∀ part ∈ l.parts, part.Proper) → ∀ cursor ≤ source.size,
    (∃ n stop, l.place source.bytes cursor = .ok (n, stop) ∧ Placed source cursor [l] [n] stop) ∨
      ∃ e, l.place source.bytes cursor = .error e ∧ Unplaceable source cursor [l] e
  | leaf type text field named, hproper, cursor, _ => by
    have htext : text ≠ "" := hproper _ (List.mem_singleton_self _)
    have hneedle : (Utf8.encode text.toList).isEmpty = false := List.isEmpty_eq_false_iff.2 (encode_ne_nil htext)
    cases hfind : find (Utf8.encode text.toList) cursor (source.bytes.drop cursor) with
    | none =>
      refine .inr ⟨.tokenNotFound text type cursor, ?_, .leaf hfind⟩
      simp only [place, hfind]
    | some i =>
      refine .inl ⟨_, _, ?_, .leaf htext (earliest_of_find hfind)⟩
      simp only [place, hfind, hneedle, Bool.false_eq_true, if_false]
  | missing type field, _, cursor, hcursor => .inl ⟨_, _, rfl, .missing hcursor⟩
  | unsupported shown, hproper, _, _ => absurd (hproper _ (List.mem_singleton_self _)) not_false
  | node type field named children, hproper, cursor, hcursor => by
    obtain ⟨hchildren, hparts⟩ := List.forall_mem_cons.1 hproper
    rcases placeAll_cases source children hparts cursor hcursor with ⟨ns, stop, hplace, hplaced⟩ | ⟨e, hplace, he⟩
    · cases ns with
      | nil =>
        obtain ⟨c, cs, rfl⟩ := List.exists_cons_of_ne_nil hchildren
        exact absurd hplaced.described not_false
      | cons first rest =>
        refine .inl ⟨_, stop, ?_, hplaced.node⟩
        rw [place, hplace]
        simp only [bind, Except.bind, hplaced.span_eq]
    · refine .inr ⟨e, ?_, he.node⟩
      rw [place, hplace]
      rfl

/-- The same for several literals, one after another. -/
theorem placeAll_cases (source : Source) : (ls : List TreeLiteral) → (∀ part ∈ partsAll ls, part.Proper) →
    ∀ cursor ≤ source.size,
    (∃ ns stop, placeAll source.bytes cursor ls = .ok (ns, stop) ∧ Placed source cursor ls ns stop) ∨
      ∃ e, placeAll source.bytes cursor ls = .error e ∧ Unplaceable source cursor ls e
  | [], _, cursor, hcursor => .inl ⟨[], cursor, rfl, .nil hcursor⟩
  | c :: cs, hproper, cursor, hcursor => by
    obtain ⟨hc, hcs⟩ := List.forall_mem_append.1 hproper
    rcases place_cases source c hc cursor hcursor with ⟨n, middle, hplace, hplaced⟩ | ⟨e, hplace, he⟩
    · rcases placeAll_cases source cs hcs middle hplaced.bounded.2 with ⟨ns, stop, hrest, hplaced'⟩ | ⟨e, hrest, he⟩
      · refine .inl ⟨n :: ns, stop, ?_, hplaced.append hplaced'⟩
        simp only [placeAll, hplace, hrest, bind, Except.bind]
      · refine .inr ⟨e, ?_, he.after hplaced⟩
        simp only [placeAll, hplace, hrest, bind, Except.bind]
    · refine .inr ⟨e, ?_, he.append⟩
      simp only [placeAll, hplace, bind, Except.bind]

end

/-! ## The tree of a literal -/

/-- All nodes span their leaves, except that the root spans the whole source if it should. -/
def Spanned (source : Source) (spanSource : Bool) (root : Node) : Prop :=
  (∀ m ∈ Node.preorder.preorderList root.children, m.SpansLeaves) ∧
    if spanSource then root.start = 0 ∧ root.stop = source.size else root.SpansLeaves

/-- A tree that lies in a text makes sense over it with a root that spans the text. -/
theorem valid_spanning {limit : Nat} {n : Node} (h : n.Valid limit) (hstart : 0 ≤ n.start) :
    (spanning 0 limit n).Valid limit := by
  obtain ⟨l, cs⟩ := n
  obtain ⟨-, hstop, hlaid, hcs⟩ := h
  have hlow : ∀ c ∈ cs, 0 ≤ c.start := fun c hc => Int.le_trans hstart (hlaid.start_le c hc)
  have hhigh : ∀ c ∈ cs, c.stop ≤ limit := fun c hc => Int.le_trans (hlaid.stop_le c hc) hstop
  refine ⟨Int.natCast_nonneg _, Int.le_refl _, ?_, hcs⟩
  exact Node.laid_of_pairwise (fun c hc => ⟨hlow c hc, hhigh c hc⟩) hlow (hlaid.pairwise hcs).2

/-- What a proper literal with children says of a tree is that it has children. -/
theorem Describes.children_ne_nil {l : TreeLiteral} {n : Node} (h : l.Describes n) (hleaf : l.isLeaf = false)
    (hproper : l.Proper) : n.children ≠ [] := by
  obtain ⟨lab, cs⟩ := n
  cases l with
  | leaf => cases hleaf
  | missing => cases hleaf
  | unsupported => exact absurd h not_false
  | node type field named children =>
    obtain ⟨-, -, -, -, hcs⟩ := h
    rintro rfl
    obtain ⟨c, children, rfl⟩ := List.exists_cons_of_ne_nil hproper
    exact hcs

/-- What a literal says of a tree does not depend on ranges. -/
theorem Describes.spanning {l : TreeLiteral} {n : Node} (h : l.Describes n) (start stop : Int) :
    l.Describes (spanning start stop n) := by
  obtain ⟨lab, cs⟩ := n
  cases l <;> exact h

theorem leaves_spanning {n : Node} (h : n.children ≠ []) (start stop : Int) : (spanning start stop n).leaves = n.leaves := by
  obtain ⟨l, cs⟩ := n
  have hcs : cs ≠ [] := h
  rw [spanning, Node.leaves_mk hcs, Node.leaves_mk hcs]

/-- The tree of a literal is what the literal says, each of its leaves stands where it belongs after the leaves before it, and
its nodes are spanned as they should be. -/
structure Built (source : Source) (spanSource : Bool) (literal : TreeLiteral) (t : Snapshot) : Prop where
  described : literal.Describes t.root
  leaves : t.root.leaves.length = literal.leaves.length
  seated : ∀ (i : Nat) l n, literal.leaves[i]? = some l → t.root.leaves[i]? = some n →
    Seats source (Node.tokenEnd 0 (t.root.leaves.take i)) l n
  spanned : Spanned source spanSource t.root
  source : t.source = source

/-- What a node is placed as makes sense with the root that it gets, and is the tree of the node. -/
theorem Placed.built {source : Source} {literal : TreeLiteral} {n : Node} {stop : Nat}
    (h : Placed source 0 [literal] [n] stop) (hchildren : n.children ≠ []) (spanSource : Bool) :
    ∃ t, Snapshot.ofNode (if spanSource then spanning 0 source.size n else n) source = .ok t ∧
      Built source spanSource literal t := by
  have hvalid := h.valid n (List.mem_singleton_self n)
  have hseated : SeatsAll source 0 literal.leaves n.leaves := by
    have hseated := h.seated
    rwa [List.flatMap_singleton, List.flatMap_singleton] at hseated
  have hspans := h.spans n (List.mem_singleton_self n)
  have hbelow : ∀ m ∈ Node.preorder.preorderList n.children, m.SpansLeaves := by
    obtain ⟨l, cs⟩ := n
    exact fun m hm => hspans m (List.mem_cons_of_mem _ hm)
  cases spanSource with
  | false =>
    exact ⟨_, Snapshot.ofNode_eq_ok hvalid, h.described.1, hseated.length, fun i l m => hseated.seats,
      ⟨hbelow, hspans n (Node.mem_preorder n)⟩, rfl⟩
  | true =>
    have hvalid' := valid_spanning hvalid (h.inside n (List.mem_singleton_self n)).1
    rw [← leaves_spanning hchildren 0 source.size] at hseated
    refine ⟨_, Snapshot.ofNode_eq_ok hvalid', h.described.1.spanning _ _, hseated.length, fun i l m => hseated.seats, ?_, rfl⟩
    obtain ⟨l, cs⟩ := n
    exact ⟨hbelow, rfl, rfl⟩

/-- A literal with children, of proper parts, has a tree exactly when its tokens can be placed in the source one after another.
Otherwise it is refused for one of its tokens, never for the ranges that it would get. -/
theorem build_placed {source : Source} {literal : TreeLiteral} (hroot : literal.isLeaf = false)
    (hproper : ∀ part ∈ literal.parts, part.Proper) (spanSource : Bool) :
    ((∃ t, literal.build source spanSource = .ok t) ↔ Placeable source.bytes literal.tokens) ∧
      (∀ e, literal.build source spanSource = .error e → ∃ type text field named after,
        leaf type text field named ∈ literal.leaves ∧ e = .tokenNotFound text type after) ∧
      ∀ t, literal.build source spanSource = .ok t → Built source spanSource literal t := by
  have htokens : PlaceableFrom source.bytes 0 ([literal].flatMap tokens ++ []) ↔ Placeable source.bytes literal.tokens := by
    rw [List.flatMap_singleton, List.append_nil, placeableFrom_zero_iff]
  rcases place_cases source literal hproper 0 (Nat.zero_le _) with ⟨n, stop, hplace, hplaced⟩ | ⟨e, hplace, he⟩
  · have hchildren := hplaced.described.1.children_ne_nil hroot (hproper _ literal.mem_parts)
    obtain ⟨t, ht, hbuilt⟩ := hplaced.built hchildren spanSource
    have hbuild : literal.build source spanSource = .ok t := by
      rw [build, hplace]
      exact ht
    have hplaceable := htokens.1 ((hplaced.placeable []).2 (placeableFrom_nil _ _))
    refine ⟨iff_of_true ⟨t, hbuild⟩ hplaceable, fun e he => ?_, fun t' ht' => ?_⟩
    · rw [hbuild] at he
      cases he
    · rw [hbuild] at ht'
      obtain rfl := Except.ok.inj ht'
      exact hbuilt
  · have hbuild : literal.build source spanSource = .error e := by
      rw [build, hplace]
      rfl
    refine ⟨iff_of_false ?_ (mt htokens.2 (he.unplaceable [])), fun e' he' => ?_, fun t ht => ?_⟩
    · rintro ⟨t, ht⟩
      rw [hbuild] at ht
      cases ht
    · rw [hbuild] at he'
      obtain rfl := Except.error.inj he'
      obtain ⟨type, text, field, named, after, hmem, rfl⟩ := he.named
      rw [List.flatMap_singleton] at hmem
      exact ⟨type, text, field, named, after, hmem, rfl⟩
    · rw [hbuild] at ht
      cases ht

/-- An assignment that is not finished. -/
def unfinished : TreeLiteral :=
  node "program" none true [node "assignment_exp" none true [leaf "identifier" "x" (some "left") true, token "=",
    missing "number" (some "right")], leaf "comment" "# x" none true]

/-- Its tokens can be placed in a text. -/
theorem placeable_unfinished : Placeable (Source.ofString "x = # x\n").bytes unfinished.tokens := by
  refine ⟨[(0, Utf8.encode ['x']), (2, Utf8.encode ['=']), (4, Utf8.encode ['#', ' ', 'x'])], rfl, ?_, by decide⟩
  simp only [List.forall_mem_cons, OccursAt]
  decide

/-- So it has a tree over that text, although a number is missing. -/
theorem build_placed_unfinished :
    ∃ t, unfinished.build (.ofString "x = # x\n") false = .ok t ∧ Built (.ofString "x = # x\n") false unfinished t := by
  have hproper : ∀ part ∈ unfinished.parts, part.Proper := by
    simp [unfinished, parts, partsAll, Proper, token]
  obtain ⟨hplaceable, -, hbuilt⟩ := @build_placed (.ofString "x = # x\n") unfinished rfl hproper false
  obtain ⟨t, ht⟩ := hplaceable.2 placeable_unfinished
  exact ⟨t, ht, hbuilt t ht⟩

end TreeLiteral

end AwkEdit
