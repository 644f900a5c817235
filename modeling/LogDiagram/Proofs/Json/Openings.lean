import LogDiagram.Proofs.Json.Reading

/-!
# Lists and objects that are not complete

What is read of a list or an object does not depend on what follows: everything up to the item or the member that is
being read is kept.

* `Opened`: an opening bracket with items and their commas behind it, up to where the next item starts;
* `readValue_openedList`, `readValue_openedObject`: the reader stands in front of the next item or member;
* `exists_readItems_cons`, `exists_readMembers_cons`: that item or member stands behind those that were read.
-/

namespace LogDiagram.Json

variable {t u space : Text} {items : List Text} {values : List Json} {m : Member} {members : List Member}
  {entries : List (Json × Json)} {fuel k : Nat}

/-- An opening bracket and items behind it, each with its comma, up to where the next item starts. -/
inductive Opened (opening : Char) : List Text → Text → Prop
  | none {space : Text} : IsSpace space → Opened opening [] (opening :: space)
  | some {items : List Text} {t space : Text} : Listed items t → IsSpace space →
    Opened opening items (opening :: (t ++ ',' :: space))

/-! ## What is kept -/

/-- An item is read, and then the reader goes on with the next one or stops. -/
theorem readItems_succ (fuel : Nat) (done : List Json) (t : Text) :
    let item := (readValue fuel t).1
    (∃ ending rest, readItems (fuel + 1) done t = (array (item :: done).reverse ending, rest)) ∨
      ∃ rest, readItems (fuel + 1) done t = readItems fuel (item :: done) rest := by
  rw [readItems]
  rcases readValue fuel t with ⟨item, _ | rest⟩
  · exact .inl ⟨_, _, rfl⟩
  · simp only
    split
    · exact .inl ⟨_, _, rfl⟩
    · exact .inl ⟨_, _, rfl⟩
    · exact .inr ⟨_, rfl⟩
    · exact .inl ⟨_, _, rfl⟩

/-- The items that were read are kept. -/
theorem exists_readItems (fuel : Nat) (done : List Json) (t : Text) :
    ∃ more ending rest, readItems fuel done t = (array (done.reverse ++ more) ending, rest) := by
  induction fuel generalizing done t with
  | zero => exact ⟨[], _, _, by rw [readItems, List.append_nil]⟩
  | succ fuel ih =>
    rcases readItems_succ fuel done t with ⟨ending, out, hread⟩ | ⟨rest, hread⟩
    · exact ⟨[(readValue fuel t).1], ending, out, by rw [hread, List.reverse_cons]⟩
    · obtain ⟨more, ending, out, hmore⟩ := ih ((readValue fuel t).1 :: done) rest
      refine ⟨(readValue fuel t).1 :: more, ending, out, ?_⟩
      rw [hread, hmore, List.reverse_cons, List.append_assoc, List.singleton_append]

/-- The item that is being read comes next, even if it breaks off. -/
theorem exists_readItems_cons (fuel : Nat) (done : List Json) (t : Text) :
    ∃ more ending rest,
      readItems (fuel + 1) done t = (array (done.reverse ++ (readValue fuel t).1 :: more) ending, rest) := by
  rcases readItems_succ fuel done t with ⟨ending, out, hread⟩ | ⟨rest, hread⟩
  · exact ⟨[], ending, out, by rw [hread, List.reverse_cons]⟩
  · obtain ⟨more, ending, out, hmore⟩ := exists_readItems fuel ((readValue fuel t).1 :: done) rest
    refine ⟨more, ending, out, ?_⟩
    rw [hread, hmore, List.reverse_cons, List.append_assoc, List.singleton_append]

/-- The value of a member that starts behind an opening quote. -/
def memberValue (fuel : Nat) (t : Text) : Json :=
  match readString t with
  | (_, none) => null
  | (_, some rest) =>
    match skipSpacing rest with
    | [] => broken .unfinished .unfinished
    | ':' :: rest => (readValue fuel rest).1
    | _ => broken .malformed .malformed

/-- A member is read, and then the reader goes on with the next one or stops. -/
theorem readMembers_quote (fuel : Nat) (done : List (Json × Json)) (t : Text) :
    let entry := ((readString t).1, memberValue fuel t)
    (∃ ending rest, readMembers (fuel + 1) done ('"' :: t) = (object (entry :: done).reverse ending, rest)) ∨
      ∃ rest, readMembers (fuel + 1) done ('"' :: t) = readMembers fuel (entry :: done) rest := by
  rw [readMembers, memberValue]
  rcases readString t with ⟨key, _ | rest⟩
  · exact .inl ⟨_, _, rfl⟩
  · simp only
    rcases skipSpacing rest with _ | ⟨c, u⟩
    · exact .inl ⟨_, _, rfl⟩
    · by_cases hc : c = ':'
      · subst hc
        simp only
        rcases readValue fuel u with ⟨value, _ | rest⟩
        · exact .inl ⟨_, _, rfl⟩
        · simp only
          split
          · exact .inl ⟨_, _, rfl⟩
          · exact .inl ⟨_, _, rfl⟩
          · exact .inr ⟨_, rfl⟩
          · exact .inl ⟨_, _, rfl⟩
      · have hother : ∀ rest, c :: u = ':' :: rest → False := fun rest heq => hc (List.cons.inj heq).1
        exact .inl ⟨none, none, by simp only⟩

/-- The members that were read are kept. -/
theorem exists_readMembers (fuel : Nat) (done : List (Json × Json)) (t : Text) :
    ∃ more ending rest, readMembers fuel done t = (object (done.reverse ++ more) ending, rest) := by
  induction fuel generalizing done t with
  | zero => exact ⟨[], _, _, by rw [readMembers, List.append_nil]⟩
  | succ fuel ih =>
    rcases t with _ | ⟨c, t⟩
    · exact ⟨[], _, _, by rw [readMembers, List.append_nil]⟩
    · by_cases hc : c = '"'
      · subst hc
        rcases readMembers_quote fuel done t with ⟨ending, out, hread⟩ | ⟨rest, hread⟩
        · exact ⟨[_], ending, out, by rw [hread, List.reverse_cons]⟩
        · obtain ⟨more, ending, out, hmore⟩ := ih (((readString t).1, memberValue fuel t) :: done) rest
          refine ⟨((readString t).1, memberValue fuel t) :: more, ending, out, ?_⟩
          rw [hread, hmore, List.reverse_cons, List.append_assoc, List.singleton_append]
      · refine ⟨[], some .malformed, none, ?_⟩
        rw [readMembers, List.append_nil]
        · intro heq
          cases heq
        · intro rest heq
          exact hc (List.cons.inj heq).1

/-- The member that is being read comes next, even if it breaks off. -/
theorem exists_readMembers_cons (fuel : Nat) (done : List (Json × Json)) (t : Text) :
    ∃ more ending rest, readMembers (fuel + 1) done ('"' :: t) =
      (object (done.reverse ++ ((readString t).1, memberValue fuel t) :: more) ending, rest) := by
  rcases readMembers_quote fuel done t with ⟨ending, out, hread⟩ | ⟨rest, hread⟩
  · exact ⟨[], ending, out, by rw [hread, List.reverse_cons]⟩
  · obtain ⟨more, ending, out, hmore⟩ := exists_readMembers fuel (((readString t).1, memberValue fuel t) :: done) rest
    refine ⟨more, ending, out, ?_⟩
    rw [hread, hmore, List.reverse_cons, List.append_assoc, List.singleton_append]

theorem memberValue_of_colon {key : Json} (h : readString t = (key, some (space ++ ':' :: u)))
    (hspace : IsSpace space) : memberValue fuel t = (readValue fuel u).1 := by
  rw [memberValue, h]
  simp only [skipSpacing_append hspace, skipSpacing_cons (by decide : isSpacing ':' = false)]

/-! ## The next item or member -/

/-- The reader of an opened list stands in front of the next item. -/
theorem readValue_openedList (h : Opened '[' items t) (hvalues : List.Forall₂ Reads items values) (hu : Starts u)
    (hfuel : t.length + k ≤ fuel) :
    ∃ fuel', k ≤ fuel' ∧ readValue fuel (t ++ u) = readItems fuel' values.reverse u := by
  obtain ⟨c, v, rfl, hc, hne⟩ := hu
  have hskip : ∀ {space}, IsSpace space → skipSpacing (space ++ c :: v) = c :: v := fun hspace => by
    rw [skipSpacing_append hspace, skipSpacing_cons hc]
  cases h with
  | none hspace =>
    obtain rfl := List.forall₂_nil_left_iff.1 hvalues
    simp only [List.length_cons] at hfuel
    obtain ⟨fuel, rfl⟩ : ∃ k, fuel = k + 1 := ⟨fuel - 1, by omega⟩
    refine ⟨fuel, by omega, ?_⟩
    rw [List.cons_append, readValue_bracket (hskip hspace) hne, ← readItems_skipSpacing, hskip hspace]
    rfl
  | @some _ t space hlisted hspace =>
    simp only [List.length_cons, List.length_append] at hfuel
    obtain ⟨fuel, rfl⟩ : ∃ k, fuel = k + 1 := ⟨fuel - 1, by omega⟩
    have hends : Ends (',' :: (space ++ c :: v)) := ends_cons (by decide)
    have hlarge : t.length + 1 + k ≤ fuel := by omega
    obtain ⟨fuel', hk, hread⟩ := readValue_listed hlisted hvalues hlarge hends
    refine ⟨fuel', hk, ?_⟩
    have htext : '[' :: (t ++ ',' :: space) ++ c :: v = '[' :: (t ++ ',' :: (space ++ c :: v)) := by simp
    rw [htext, hread, afterItem_comma, ← readItems_skipSpacing, hskip hspace]

/-- The reader of an opened object stands in front of the next member. -/
theorem readValue_openedObject (h : Opened '\x7b' (members.map Member.text) t)
    (hentries : List.Forall₂ ReadsMember members entries) (hfuel : t.length + k ≤ fuel) (u : Text) :
    ∃ fuel', k ≤ fuel' ∧ readValue fuel (t ++ '"' :: u) = readMembers fuel' entries.reverse ('"' :: u) := by
  have hskip : ∀ {space}, IsSpace space → skipSpacing (space ++ '"' :: u) = '"' :: u := fun hspace => by
    rw [skipSpacing_append hspace, skipSpacing_cons (by decide)]
  generalize hitems : members.map Member.text = items at h
  cases h with
  | none hspace =>
    obtain rfl := List.map_eq_nil_iff.1 hitems
    obtain rfl := List.forall₂_nil_left_iff.1 hentries
    simp only [List.length_cons] at hfuel
    obtain ⟨fuel, rfl⟩ : ∃ k, fuel = k + 1 := ⟨fuel - 1, by omega⟩
    refine ⟨fuel, by omega, ?_⟩
    rw [List.cons_append, readValue_brace (hskip hspace), hskip hspace]
    rfl
  | @some _ t space hlisted hspace =>
    rw [← hitems] at hlisted
    simp only [List.length_cons, List.length_append] at hfuel
    obtain ⟨fuel, rfl⟩ : ∃ k, fuel = k + 1 := ⟨fuel - 1, by omega⟩
    have hends : Ends (',' :: (space ++ '"' :: u)) := ends_cons (by decide)
    have hlarge : t.length + 1 + k ≤ fuel := by omega
    obtain ⟨fuel', hk, hread⟩ := readValue_listed_members hlisted hentries hlarge hends
    refine ⟨fuel', hk, ?_⟩
    have htext : '\x7b' :: (t ++ ',' :: space) ++ '"' :: u = '\x7b' :: (t ++ ',' :: (space ++ '"' :: u)) := by simp
    rw [htext, hread, afterMember_comma, hskip hspace]

/-- In an opened list the next item is read behind the others, even if it breaks off. -/
theorem exists_array_of_opened (h : Opened '[' items t) (hvalues : List.Forall₂ Reads items values) (hu : Starts u)
    (hfuel : t.length + (k + 1) ≤ fuel) :
    ∃ fuel' more ending, k ≤ fuel' ∧
      (readValue fuel (t ++ u)).1 = array (values ++ (readValue fuel' u).1 :: more) ending := by
  obtain ⟨fuel', hk, hread⟩ := readValue_openedList h hvalues hu hfuel
  obtain ⟨fuel', rfl⟩ : ∃ k, fuel' = k + 1 := ⟨fuel' - 1, by omega⟩
  obtain ⟨more, ending, rest, hnext⟩ := exists_readItems_cons fuel' values.reverse u
  exact ⟨fuel', more, ending, by omega, by rw [hread, hnext, List.reverse_reverse]⟩

/-- In an opened object the next member is read behind the others, even if it breaks off. -/
theorem exists_object_of_opened (h : Opened '\x7b' (members.map Member.text) t)
    (hentries : List.Forall₂ ReadsMember members entries) (hfuel : t.length + (k + 1) ≤ fuel) (u : Text) :
    ∃ fuel' more ending, k ≤ fuel' ∧ (readValue fuel (t ++ '"' :: u)).1 =
      object (entries ++ ((readString u).1, memberValue fuel' u) :: more) ending := by
  obtain ⟨fuel', hk, hread⟩ := readValue_openedObject h hentries hfuel u
  obtain ⟨fuel', rfl⟩ : ∃ k, fuel' = k + 1 := ⟨fuel' - 1, by omega⟩
  obtain ⟨more, ending, rest, hnext⟩ := exists_readMembers_cons fuel' entries.reverse u
  exact ⟨fuel', more, ending, by omega, by rw [hread, hnext, List.reverse_reverse]⟩

end LogDiagram.Json
