import Flashcards.Proofs.Source.Ways

/-!
# Places within the root

The resources of a deck in a directory are looked for within its root. The path of a resource may lead out of the root and into it again, any number of
times, and up past the top of the disk. What counts is the place to which it leads from the root, as the shortest way says
(`LeadsTo`): it is within the root by its names, not by its characters, or nothing is read (`DirectorySource.place_within_root`).
-/

namespace Flashcards

open Text

/-- The place of a path that starts at the top of the disk, for someone who stands anywhere. -/
theorem Place.ofPath_eq {path : Text} (htop : path.head? = some '/') (hzero : '\x00' ∉ path) (here : Place) :
    ofPath here path = .ok (Address.follow [] (namesIn path)) := by
  rw [ofPath, if_pos htop]
  exact follow_splitOn hzero []

namespace DirectorySource

/-- The place of a resource is where its path leads from the root, if that is within the root. -/
theorem placeOf_eq {path : Text} (hzero : '\x00' ∉ path) (root : Place) :
    placeOf path ⟨root⟩ =
      if root <+: Address.follow root (namesIn (path.dropWhile (· == '/'))) then
        .ok (Address.follow root (namesIn (path.dropWhile (· == '/'))))
      else .error (.ofPath path (some 403) "outside deck root") := by
  have hrest : '\x00' ∉ path.dropWhile (· == '/') := fun h => hzero ((List.dropWhile_sublist _).subset h)
  rw [placeOf, Place.follow_splitOn hrest root]
  show (if root.isPrefixOf _ = true then _ else _) = _
  simp only [List.isPrefixOf_iff_prefix]
  rfl

/-- The root is given by a path from the top of the disk, and a resource by any path. Both paths put together lead to one place. If this is within
the root, by its names, it is the place of the resource; else the resource is refused. -/
theorem place_within_root (here : Place) {rootPath path : Text} (htop : rootPath.head? = some '/') (hroot : '\x00' ∉ rootPath)
    (hpath : '\x00' ∉ path) :
    ∃ root place : Place,
      Place.ofPath here rootPath = .ok root ∧ LeadsTo (namesIn rootPath) root ∧
      (∀ p, LeadsTo (namesIn (rootPath ++ '/' :: path.dropWhile (· == '/'))) p ↔ p = place) ∧
      (root <+: place → placeOf path ⟨root⟩ = .ok place) ∧
      (¬ root <+: place → placeOf path ⟨root⟩ = .error (.ofPath path (some 403) "outside deck root")) := by
  have hplace : Address.follow [] (namesIn (rootPath ++ '/' :: path.dropWhile (· == '/'))) =
      Address.follow (Address.follow [] (namesIn rootPath)) (namesIn (path.dropWhile (· == '/'))) := by
    rw [namesIn_append_cons, Address.follow_append]
  refine ⟨Address.follow [] (namesIn rootPath), Address.follow [] (namesIn (rootPath ++ '/' :: path.dropWhile (· == '/'))),
    Place.ofPath_eq htop hroot here, leadsTo_iff.2 rfl, fun p => leadsTo_iff.trans eq_comm, fun h => ?_, fun h => ?_⟩
  · rw [hplace] at h ⊢
    rw [placeOf_eq hpath, if_pos h]
  · rw [hplace] at h
    rw [placeOf_eq hpath, if_neg h]

/-- A path that climbs past the top of the disk and comes back into the root is read, and one that leads to a directory beside the root is not,
although its characters begin with those of the root. -/
theorem place_within_root_climbing :
    Place.ofPath [] "/srv/./decks//" = .ok [("srv" : Text), "decks"] ∧
      placeOf "//../../../srv/decks/a//./b" ⟨[("srv" : Text), "decks"]⟩ = .ok [("srv" : Text), "decks", "a", "b"] ∧
      placeOf "a/../../decks2/x" ⟨[("srv" : Text), "decks"]⟩ = .error (.ofPath "a/../../decks2/x" (some 403) "outside deck root") := by
  have hplace : ∀ path : Text, '\x00' ∉ path → ∀ place : Place,
      Address.follow [] (namesIn ("/srv/./decks//" ++ '/' :: path.dropWhile (· == '/'))) = place →
        Place.ofPath [] "/srv/./decks//" = .ok [("srv" : Text), "decks"] ∧
        ([("srv" : Text), "decks"] <+: place → placeOf path ⟨[("srv" : Text), "decks"]⟩ = .ok place) ∧
        (¬ [("srv" : Text), "decks"] <+: place →
          placeOf path ⟨[("srv" : Text), "decks"]⟩ = .error (.ofPath path (some 403) "outside deck root")) := by
    intro path hpath place hleads
    have htop : ("/srv/./decks//" : Text).head? = some '/' := rfl
    obtain ⟨root, place', hread, hroot, hplace', hwithin, hbeyond⟩ := place_within_root [] htop (by decide) hpath
    obtain rfl : root = [("srv" : Text), "decks"] := (leadsTo_iff.1 hroot).symm.trans (by decide)
    obtain rfl := (hplace' place).1 (leadsTo_iff.2 hleads)
    exact ⟨hread, hwithin, hbeyond⟩
  obtain ⟨hread, hwithin, -⟩ := hplace "//../../../srv/decks/a//./b" (by decide) [("srv" : Text), "decks", "a", "b"] (by decide)
  obtain ⟨-, -, hbeyond⟩ := hplace "a/../../decks2/x" (by decide) [("srv" : Text), "decks2", "x"] (by decide)
  exact ⟨hread, hwithin (by decide), hbeyond (by decide)⟩

end DirectorySource

end Flashcards
