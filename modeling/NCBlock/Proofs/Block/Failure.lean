import NCBlock.Block.Text

/-!
Errors of reading. What a checksum is worth plays no part in them, and the
wording of an error shows whether it comes from a checksum. Of a row of tokens,
the first that is refused gives the error.
-/

namespace NCBlock

namespace Error

/-- The errors that reading can end with. -/
inductive IsReading : Error → Prop
  | invalidWord {byte : UInt8} : IsReading (.invalidWord byte)
  | invalidString {raw : Text} {fault : StringFault} : IsReading (.invalidString raw fault)
  | unrecognizedToken {token : Text} : IsReading (.unrecognizedToken token)
  | undefinedSymbols {residue : Text} : IsReading (.undefinedSymbols residue)
  | noCommand {region : Text} : IsReading (.noCommand region)

variable {e : Error}

/-- The messages differ in their first letter already. -/
theorem IsReading.exists_head?_message (h : e.IsReading) :
    ∃ c, c ≠ 'c' ∧ e.message.head? = some c := by
  cases h with
  | invalidWord => exact ⟨'i', by decide, rfl⟩
  | invalidString => exact ⟨'i', by decide, rfl⟩
  | unrecognizedToken => exact ⟨'u', by decide, rfl⟩
  | undefinedSymbols => exact ⟨'u', by decide, rfl⟩
  | noCommand => exact ⟨'n', by decide, rfl⟩

theorem IsReading.message_ne_mismatch (h : e.IsReading) (stored computed : UInt32) :
    e.message ≠ (checksumMismatch stored computed).message := by
  intro heq
  obtain ⟨c, hc, hhead⟩ := h.exists_head?_message
  have hmismatch : (checksumMismatch stored computed).message.head? = some 'c' := rfl
  rw [heq, hmismatch] at hhead
  exact hc (Option.some.inj hhead).symm

end Error

/-! ### Rows of tokens -/

variable {e : Error}

/-- What ends the making of gcodes is refused as a token on its own. -/
theorem Dialect.exists_of_ofTokens_stock {texts : List Text}
    (h : (stock.ofTokens texts ()).1 = .error e) :
    ∃ t ∈ texts, (stock.ofToken t ()).1 = .error e := by
  induction texts with
  | nil => cases h
  | cons t texts ih =>
      rw [ofTokens] at h
      split at h
      next ht =>
        cases h
        exact ⟨t, List.mem_cons_self, by rw [ht]⟩
      next g s _ =>
        split at h
        next hrest =>
          cases h
          obtain ⟨u, hu, hrefused⟩ := ih (by rw [hrest])
          exact ⟨u, List.mem_cons_of_mem t hu, hrefused⟩
        next => cases h

end NCBlock
