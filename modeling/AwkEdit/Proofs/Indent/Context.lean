import AwkEdit.Indent.Matcher
import AwkEdit.Proofs.Tree.Lookup

/-!
# The node that a line is looked at with

A line is indented by the node that starts it, but what is looked up at its first significant byte is a node that contains the
byte. Where some node below the root starts at the byte the two are the same: the context has the outermost node that does, and
the node above it. Where none does, and a node below the root was begun earlier and goes on at the byte, the context has such a
node although it starts elsewhere. `ofLine_chosen` says which node a line is looked at with, and when it is the one that starts
the line.
-/

namespace AwkEdit

/-- The place is below the root of the tree, and its node starts at the position and is not empty. -/
def Snapshot.Begins (t : Snapshot) (pos : Int) (p : Place) : Prop :=
  p ∈ t.places ∧ p.isRoot = false ∧ p.node.start = pos ∧ p.node.start < p.node.stop

/-- What begins at a position is what covers it and starts there. -/
theorem Snapshot.begins_iff {t : Snapshot} {pos : Int} {p : Place} :
    t.Begins pos p ↔ t.CoversBelow pos p ∧ p.node.start = pos := by
  simp only [Begins, CoversBelow, Node.contains, Bool.and_eq_true, decide_eq_true_eq]
  constructor
  · rintro ⟨hp, hroot, hstart, hstop⟩
    exact ⟨⟨hp, hroot, by omega, by omega⟩, hstart⟩
  · rintro ⟨⟨hp, hroot, -, hstop⟩, hstart⟩
    exact ⟨hp, hroot, hstart, by omega⟩

namespace IndentContext

/-- The context has a node exactly when one begins at the position, and then it is the outermost that does, with the node above it
as the parent. -/
structure StartsAt (c : IndentContext) (pos : Int) : Prop where
  node_iff : c.node.isSome = true ↔ ∃ q, c.tree.Begins pos q
  outermost : ∀ p, c.node = some p →
    c.tree.Begins pos p ∧ (∀ q, c.tree.Begins pos q → p.Reaches q) ∧ p.parent = some c.parent

variable {t : Snapshot} {l b : Nat}

theorem tree_ofLine (t : Snapshot) (l : Nat) : (ofLine t l).tree = t := by
  simp only [ofLine]
  split
  · rfl
  · split <;> rfl

/-- A line with a significant byte is looked at from there. -/
theorem bol_ofLine (hb : t.source.firstNonblank l = some b) : (ofLine t l).bol = b := by
  simp only [ofLine, hb]
  split <;> rfl

/-- A line with a significant byte is looked at with what is looked up there, unless that is the root. -/
theorem node_ofLine (hb : t.source.firstNonblank l = some b) :
    (t.largestNodeAt b).isRoot = true ∧ (ofLine t l).node = none ∨
      (t.largestNodeAt b).isRoot = false ∧ (ofLine t l).node = some (t.largestNodeAt b) ∧
        (t.largestNodeAt b).parent = some (ofLine t l).parent := by
  simp only [ofLine, hb]
  generalize t.largestNodeAt b = p
  obtain ⟨n, trail⟩ := p
  cases trail with
  | nil => exact .inl ⟨rfl, rfl⟩
  | cons step trail => exact .inr ⟨rfl, rfl, rfl⟩

/-- A line is looked at with a node exactly when some node below the root covers its first significant byte. -/
theorem isSome_node_ofLine (hb : t.source.firstNonblank l = some b) :
    (ofLine t l).node.isSome = true ↔ ∃ q, t.CoversBelow b q := by
  obtain ⟨hroot, hchosen⟩ := t.largestNodeAt_spec b
  rcases node_ofLine hb with ⟨hisRoot, hnone⟩ | ⟨hbelow, hnode, -⟩
  · have hfree := hroot.1 hisRoot
    simp [hnone, hfree]
  · have hcovers := (hchosen hbelow).1
    simp only [hnode, Option.isSome_some, true_iff]
    exact ⟨_, hcovers⟩

/-- The node that a line is looked at with covers the first significant byte of the line, and the node above it is the parent. Of
all nodes below the root that cover the byte it starts last, and is the outermost of those that start there. -/
theorem coversBelow_of_node_ofLine {p : Place} (hb : t.source.firstNonblank l = some b) (hp : (ofLine t l).node = some p) :
    t.CoversBelow b p ∧ p.parent = some (ofLine t l).parent ∧
      ∀ q, t.CoversBelow b q → q.node.start ≤ p.node.start ∧ (q.node.start = p.node.start → p.Reaches q) := by
  rcases node_ofLine hb with ⟨-, hnone⟩ | ⟨hbelow, hnode, hparent⟩
  · rw [hnone] at hp
    cases hp
  · rw [hnode] at hp
    obtain rfl := Option.some.inj hp
    have hchosen := (t.largestNodeAt_spec b).2 hbelow
    exact ⟨hchosen.1, hparent, hchosen.2⟩

/-- Where a node begins, the line is looked at with the outermost node that does. -/
theorem startsAt_of_begins {first : Place} (hb : t.source.firstNonblank l = some b) (hfirst : t.Begins b first) :
    (ofLine t l).StartsAt b := by
  have hcovered : t.CoversBelow b first ∧ first.node.start = b := Snapshot.begins_iff.1 hfirst
  refine ⟨?_, fun p hp => ?_⟩
  · rw [tree_ofLine, isSome_node_ofLine hb]
    exact ⟨fun _ => ⟨first, hfirst⟩, fun _ => ⟨first, hcovered.1⟩⟩
  · obtain ⟨hcovers, hparent, hlast⟩ := coversBelow_of_node_ofLine hb hp
    -- The node that begins at the byte starts as late as a node that covers the byte can.
    have hstart : p.node.start = b := by
      have hle := (hlast first hcovered.1).1
      have hbyte := hcovers.2.2
      simp only [Node.contains, Bool.and_eq_true, decide_eq_true_eq] at hbyte
      omega
    rw [tree_ofLine]
    refine ⟨Snapshot.begins_iff.2 ⟨hcovers, hstart⟩, fun q hq => ?_, hparent⟩
    obtain ⟨hq, hqstart⟩ := Snapshot.begins_iff.1 hq
    exact (hlast q hq).2 (hqstart.trans hstart.symm)

/-- Where no node below the root covers the byte, the line is looked at without a node, and none begins there. -/
theorem startsAt_of_uncovered (hb : t.source.firstNonblank l = some b) (hfree : ∀ q, ¬t.CoversBelow b q) :
    (ofLine t l).StartsAt b := by
  have hnone : (ofLine t l).node = none := by
    rw [← Option.not_isSome_iff_eq_none, isSome_node_ofLine hb]
    exact not_exists.2 hfree
  have hbegun : ¬∃ q, t.Begins b q := by
    rintro ⟨q, hq⟩
    exact hfree q (Snapshot.begins_iff.1 hq).1
  refine ⟨?_, fun p hp => ?_⟩
  · rw [tree_ofLine, hnone]
    simp [hbegun]
  · rw [hnone] at hp
    cases hp

/-- A line with a significant byte is looked at with a node exactly when a node below the root covers the byte. Of these it is the
one that starts last, and the outermost of those that start there, and the node above it is the parent. So it is the node that
starts the line, or none when no node does, exactly when some node begins at the byte or no node below the root covers it. -/
theorem ofLine_chosen (t : Snapshot) {l b : Nat} (hb : t.source.firstNonblank l = some b) :
    ((ofLine t l).node.isSome = true ↔ ∃ q, t.CoversBelow b q) ∧
      (∀ p, (ofLine t l).node = some p →
        t.CoversBelow b p ∧ p.parent = some (ofLine t l).parent ∧
          ∀ q, t.CoversBelow b q → q.node.start ≤ p.node.start ∧ (q.node.start = p.node.start → p.Reaches q)) ∧
      ((ofLine t l).StartsAt b ↔ (∃ q, t.Begins b q) ∨ ∀ q, ¬t.CoversBelow b q) := by
  refine ⟨isSome_node_ofLine hb, fun p hp => coversBelow_of_node_ofLine hb hp, ?_⟩
  constructor
  · intro hstarts
    by_cases hcovered : ∃ q, t.CoversBelow b q
    · left
      have hbegun := hstarts.node_iff.1 ((isSome_node_ofLine hb).2 hcovered)
      rwa [tree_ofLine] at hbegun
    · exact .inr (not_exists.1 hcovered)
  · rintro (⟨first, hfirst⟩ | hfree)
    · exact startsAt_of_begins hb hfirst
    · exact startsAt_of_uncovered hb hfree

/-! ### A string over two lines -/

/-- An assignment of a string that goes on over the end of its first line. -/
def brokenString : Snapshot where
  root :=
    .mk { type := "program", start := 0, stop := 11 }
      [.mk { type := "assignment_exp", start := 0, stop := 10 }
        [.mk { type := "identifier", start := 0, stop := 1 } [],
          .mk { type := "=", start := 2, stop := 3, named := false } [],
          .mk { type := "string", start := 4, stop := 10 } []]]
  source := .ofString "x = \"a\\\nb\"\n"
  valid := by
    simp only [Node.Valid, Node.ValidAll, Node.Laid]
    decide

/-- The first line is looked at with the assignment that starts it, right below the program. -/
theorem ofLine_chosen_first :
    brokenString.source.firstNonblank 0 = some 0 ∧ (ofLine brokenString 0).StartsAt 0 ∧
      (ofLine brokenString 0).node.map (·.path) = some [0] := by
  have hb : brokenString.source.firstNonblank 0 = some 0 := by decide
  have hbegins : brokenString.Begins 0 ⟨brokenString.root.children.head (by decide), [(0, brokenString.root)]⟩ :=
    ⟨List.mem_cons_of_mem _ List.mem_cons_self, rfl, rfl, by decide⟩
  exact ⟨hb, ((ofLine_chosen brokenString hb).2.2).2 (.inl ⟨_, hbegins⟩), rfl⟩

/-- The second line is looked at with the string that was begun on the first one, although no node starts the line. -/
theorem not_startsAt_brokenString :
    brokenString.source.firstNonblank 1 = some 8 ∧
      (ofLine brokenString 1).node.map (fun p => (p.path, p.node.type, p.node.start)) = some ([0, 2], "string", 4) ∧
        ¬(ofLine brokenString 1).StartsAt 8 := by
  have hnode : (ofLine brokenString 1).node.map (fun p => (p.path, p.node.type, p.node.start)) = some ([0, 2], "string", 4) := rfl
  refine ⟨by decide, hnode, fun hstarts => ?_⟩
  obtain ⟨p, hp, hlabel⟩ := Option.map_eq_some_iff.1 hnode
  have hbegins := (hstarts.outermost p hp).1.2.2.1
  simp only [Prod.mk.injEq] at hlabel
  omega

end IndentContext

end AwkEdit
