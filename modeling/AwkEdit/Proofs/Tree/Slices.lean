import AwkEdit.Proofs.Tree.Laminar

/-!
# The text of a range

A slice counts a negative bound from the end of the text. So a range in order that ends in the text is read as it stands when it
also begins in the text, and a range that begins before the text is read as fewer bytes than it has, unless it is empty or lies
before the text as a whole (`Source.length_slice_eq_iff`). Trees are accepted for what their nodes say of each other and of the
end of the text. Where the text begins is asked of none of them, and all of them begin in the text exactly when the root does
(`Snapshot.ofLinked_slices`).
-/

namespace AwkEdit

/-! ## Slices -/

namespace Source

variable {s : Source} {start stop : Int}

theorem bound_le_size (s : Source) (i : Int) : s.bound i ≤ s.size := by
  unfold bound
  split <;> omega

/-- A slice has the bytes from the one bound to the other. -/
theorem length_slice (s : Source) (start stop : Int) : (s.slice start stop).length = s.bound stop - s.bound start := by
  have hstop := s.bound_le_size stop
  rw [slice, between_eq, List.length_drop, List.length_take, length_bytes, Nat.min_eq_left hstop]

/-- The slice of a range that is in order and ends in the text has as many bytes as the range exactly when the range begins in the
text, is empty, or lies before the text by no more than the text is long. -/
theorem length_slice_eq_iff (horder : start ≤ stop) (hstop : stop ≤ s.size) :
    ((s.slice start stop).length : Int) = stop - start ↔
      0 ≤ start ∨ start = stop ∨ (-(s.size : Int) ≤ start ∧ stop < 0) := by
  rw [length_slice]
  by_cases hstart : start < 0
  · have hlow : s.bound start = (start + s.size).toNat := if_pos hstart
    by_cases hbefore : stop < 0
    · have hhigh : s.bound stop = (stop + s.size).toNat := if_pos hbefore
      omega
    · have hhigh : s.bound stop = min stop.toNat s.size := if_neg hbefore
      omega
  · have hlow : s.bound start = min start.toNat s.size := if_neg hstart
    have hhigh : s.bound stop = min stop.toNat s.size := if_neg (by omega)
    omega

end Source

/-! ## Nodes of an accepted tree -/

namespace LinkedNode

theorem label_node (m : LinkedNode) : m.node.label = m.label := by
  cases m
  rfl

end LinkedNode

namespace Snapshot

variable {n m : LinkedNode} {s : Source} {t : Snapshot}

/-- The nodes of an accepted tree are those of its snapshot. -/
theorem exists_place_of_ofLinked (h : ofLinked n s = .ok t) (hm : m ∈ n.preorder) :
    ∃ p ∈ t.places, p.node.label = m.label := by
  obtain ⟨-, -, hroot, -⟩ := ofLinked_eq_ok_iff.1 h
  have hnodes : t.places.map (·.node) = n.node.preorder := by
    rw [← hroot]
    exact Place.map_node_walk [] t.root
  have hmem : m.node ∈ t.places.map (·.node) := by
    rw [hnodes, LinkedNode.preorder_node]
    exact List.mem_map_of_mem hm
  obtain ⟨p, hp, hnode⟩ := List.mem_map.1 hmem
  exact ⟨p, hp, by rw [hnode, LinkedNode.label_node]⟩

/-- In an accepted tree every range is in order, ends in the text, and begins no earlier than the root. -/
theorem range_of_ofLinked (h : ofLinked n s = .ok t) (hm : m ∈ n.preorder) :
    n.label.start ≤ m.label.start ∧ m.label.start ≤ m.label.stop ∧ m.label.stop ≤ s.size := by
  obtain ⟨-, hfaults, hroot, -⟩ := ofLinked_eq_ok_iff.1 h
  have hsound := (LinkedNode.faults_eq_nil_iff n).1 hfaults m hm
  obtain ⟨p, hp, hlabel⟩ := exists_place_of_ofLinked h hm
  have hstart := ((Place.mem_subtree_iff.1 hp).range t.valid).2.1
  have hrootLabel : t.rootPlace.node.label = n.label := by
    rw [← LinkedNode.label_node, ← hroot]
    rfl
  rw [Node.start, Node.start, hrootLabel, hlabel] at hstart
  exact ⟨hstart, hsound.inOrder, hsound.inText⟩

theorem mem_preorder_self (n : LinkedNode) : n ∈ n.preorder := by
  cases n
  rw [LinkedNode.preorder]
  exact List.mem_cons_self

/-- A tree without a parent link at its root and without faults is accepted as it is. -/
theorem ofLinked_eq_ok (hlink : n.link = .unset) (hfaults : n.faults s.size = []) :
    ofLinked n s = .ok ⟨n.node, s, LinkedNode.valid_of_faults n hfaults⟩ :=
  ofLinked_eq_ok_iff.2 ⟨hlink, hfaults, rfl, rfl⟩

/-- In an accepted tree every range is in order and ends in the text, and its slice has as many bytes as the range exactly when the
range begins in the text, is empty, or lies before the text by no more than the text is long. All ranges begin in the text
exactly when that of the root does, and then every slice has as many bytes as its range. -/
theorem ofLinked_slices (n : LinkedNode) (s : Source) {t : Snapshot} (h : ofLinked n s = .ok t) :
    (∀ m ∈ n.preorder, m.label.start ≤ m.label.stop ∧ m.label.stop ≤ s.size ∧
      (((s.slice m.label.start m.label.stop).length : Int) = m.label.stop - m.label.start ↔
        0 ≤ m.label.start ∨ m.label.start = m.label.stop ∨ (-(s.size : Int) ≤ m.label.start ∧ m.label.stop < 0))) ∧
    ((∀ m ∈ n.preorder, 0 ≤ m.label.start) ↔ 0 ≤ n.label.start) ∧
    (0 ≤ n.label.start → ∀ m ∈ n.preorder, 0 ≤ m.label.start ∧ m.label.start ≤ m.label.stop ∧ m.label.stop ≤ s.size ∧
      ((s.slice m.label.start m.label.stop).length : Int) = m.label.stop - m.label.start) := by
  have hslices : ∀ m ∈ n.preorder, m.label.start ≤ m.label.stop ∧ m.label.stop ≤ s.size ∧
      (((s.slice m.label.start m.label.stop).length : Int) = m.label.stop - m.label.start ↔
        0 ≤ m.label.start ∨ m.label.start = m.label.stop ∨ (-(s.size : Int) ≤ m.label.start ∧ m.label.stop < 0)) := by
    intro m hm
    obtain ⟨-, horder, hstop⟩ := range_of_ofLinked h hm
    exact ⟨horder, hstop, Source.length_slice_eq_iff horder hstop⟩
  have hstarts : 0 ≤ n.label.start → ∀ m ∈ n.preorder, 0 ≤ m.label.start := by
    intro hroot m hm
    have hstart := (range_of_ofLinked h hm).1
    omega
  refine ⟨hslices, ⟨?_, hstarts⟩, ?_⟩
  · intro hall
    exact hall n (mem_preorder_self n)
  · intro hroot m hm
    have hstart := hstarts hroot m hm
    obtain ⟨horder, hstop, hlength⟩ := hslices m hm
    exact ⟨hstart, horder, hstop, hlength.2 (.inl hstart)⟩

/-- So the word on the right of the touching words is read as its one byte. -/
theorem ofLinked_slices_touching :
    ∃ t, ofLinked touching (.ofString "ab") = .ok t ∧ 0 ≤ touching.label.start ∧
      ((Source.ofString "ab").slice 1 2).length = (1 : Int) := by
  have hfaults : touching.faults (Source.ofString "ab").size = [] := by decide
  have hok := ofLinked_eq_ok rfl hfaults
  have hword : LinkedNode.mk { type := "word", start := 1, stop := 2 } .container [] ∈ touching.preorder := by
    simp [touching, LinkedNode.preorder, LinkedNode.preorderAll]
  obtain ⟨-, -, hwhole⟩ := ofLinked_slices touching (.ofString "ab") hok
  obtain ⟨-, -, -, hlength⟩ := hwhole (by decide) _ hword
  exact ⟨_, hok, by decide, hlength⟩

/-- A node that begins one byte before the text. -/
def early : LinkedNode := .mk { type := "program", start := -1, stop := 1 } .unset []

/-- Such a node is accepted over a text of two bytes, and read as no byte at all. -/
theorem ofLinked_early :
    (∃ t, ofLinked early (.ofString "ab") = .ok t) ∧ early.label.start < 0 ∧
      ((Source.ofString "ab").slice early.label.start early.label.stop).length = 0 := by
  have hfaults : early.faults (Source.ofString "ab").size = [] := by decide
  exact ⟨⟨_, ofLinked_eq_ok rfl hfaults⟩, by decide, by decide⟩

end Snapshot

end AwkEdit
