import CounterCatalog.Proofs.Event.Apart

/-!
# Cutting a listing and putting it together

A listing is cut into at least one block, and no block has the separator in it. Any texts of that kind are the blocks
of exactly one listing, the one in which they stand with separators between them: cutting and putting together are
inverse to each other (`blocks_inverse`). A block may be empty, begin with dashes, or end where a separator is broken
off. None of this makes a separator across the end of a block, since `#` stands at the front of the separator only.
-/

set_option autoImplicit false

namespace CounterCatalog.Event

open Text

/-- The separator as a string. -/
def separatorText : String := "#-----------------------------"

/-- The separator as a string has the same characters. -/
theorem toList_separatorText : separatorText.toList = separatorHead :: separatorTail := rfl

/-- Texts that can be the blocks of a listing: there is at least one, and none has the separator in it. -/
structure AreBlocks (pieces : List String) : Prop where
  ne_nil : pieces ≠ []
  free : ∀ piece ∈ pieces, ¬ separatorText.toList <:+: piece.toList

/-- Blocks are the same as strings and as characters. -/
theorem map_toList_blocks (listing : String) : (blocks listing).map String.toList = blockChars listing.toList := by
  rw [blocks, List.map_map]
  exact List.map_id'' (fun chars => String.toList_ofList) (blockChars listing.toList)

/-- There is always a block, and no separator in any. -/
theorem areBlocks_blocks (listing : String) : AreBlocks (blocks listing) := by
  constructor
  · intro hnil
    have hchars : blockChars listing.toList = [] := by rw [← map_toList_blocks, hnil, List.map_nil]
    exact splitOnWord_ne_nil listing.toList hchars
  · intro block hblock
    exact not_separator_of_mem_blocks hblock

/-- The blocks of a listing with separators between them are the listing. -/
theorem intercalate_blocks (listing : String) : separatorText.intercalate (blocks listing) = listing := by
  apply String.toList_inj.1
  rw [String.toList_intercalate, map_toList_blocks, toList_separatorText]
  exact intercalate_splitOnWord listing.toList

/-- Texts that can be blocks are cut apart again where separators were put between them. -/
theorem AreBlocks.blocks_intercalate {pieces : List String} (h : AreBlocks pieces) :
    blocks (separatorText.intercalate pieces) = pieces := by
  have hne : pieces.map String.toList ≠ [] := by
    intro hnil
    exact h.ne_nil (List.map_eq_nil_iff.1 hnil)
  have hfree : ∀ chars ∈ pieces.map String.toList, ¬ separatorHead :: separatorTail <:+: chars := by
    intro chars hchars
    obtain ⟨piece, hpiece, rfl⟩ := List.mem_map.1 hchars
    exact h.free piece hpiece
  have hcut : blockChars (separatorText.intercalate pieces).toList = pieces.map String.toList := by
    rw [String.toList_intercalate, toList_separatorText]
    exact splitOnWord_intercalate separatorHead_not_mem hne hfree
  rw [blocks, hcut, List.map_map]
  exact List.map_id'' (fun piece => String.ofList_toList) pieces

/-- **Cutting a listing into blocks and putting blocks together are inverse to each other.** Every listing has at least
one block, none of its blocks has the separator in it, and they make the listing when separators are put between them.
All texts that can be blocks, whatever they begin and end with, are what the listing made of them is cut into. -/
theorem blocks_inverse :
    (∀ listing : String, AreBlocks (blocks listing) ∧ separatorText.intercalate (blocks listing) = listing) ∧
    ∀ pieces : List String, AreBlocks pieces → blocks (separatorText.intercalate pieces) = pieces := by
  constructor
  · intro listing
    exact ⟨areBlocks_blocks listing, intercalate_blocks listing⟩
  · intro pieces hpieces
    exact hpieces.blocks_intercalate

/-- Blocks that are empty, end one dash short of a separator, begin with a dash, and are nothing but dashes. -/
def brokenBlocks : List String :=
  ["", "a#----------------------------", "-b", "", "-------------------------------", ""]

/-- Those blocks are found again once they have been joined. -/
theorem blocks_inverse_broken :
    AreBlocks brokenBlocks ∧ blocks (separatorText.intercalate brokenBlocks) = brokenBlocks := by
  have hne : brokenBlocks ≠ [] := by decide
  have hfree : ∀ piece ∈ brokenBlocks, ¬ separatorText.toList <:+: piece.toList := by decide +kernel
  exact ⟨⟨hne, hfree⟩, blocks_inverse.2 brokenBlocks ⟨hne, hfree⟩⟩

end CounterCatalog.Event
