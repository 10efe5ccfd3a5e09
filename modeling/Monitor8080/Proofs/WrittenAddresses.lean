import Monitor8080.Proofs.NumberForms
namespace Monitor8080

/-!
# Addresses as they are written

An address is written with four digits. The first digit makes it a number or a
name for a reader of expressions. No register or flag has a name of four
letters, so what is written means the address it was written for unless a
variable or a symbol is called so.
-/

namespace Text

/-! ## Four digits -/

theorem toList_hexWord (address : UInt16) :
    (hexWord address).toList = fixedHexDigits 4 address.toNat :=
  String.toList_ofList

theorem length_toList_hexWord (address : UInt16) : (hexWord address).toList.length = 4 := by
  rw [toList_hexWord, length_fixedHexDigits]

/-- What holds of the sixteen digits holds of every character of a written address. -/
theorem forall_mem_hexWord
    {holds : Char → Prop}
    (ofDigit : ∀ value < 16, holds (hexDigit value))
    (address : UInt16) :
    ∀ c ∈ (hexWord address).toList, holds c := by
  rw [toList_hexWord]
  exact forall_mem_fixedHexDigits ofDigit 4 address.toNat

theorem exists_hexWord (address : UInt16) :
    ∃ first rest, (hexWord address).toList = first :: rest := by
  cases written : (hexWord address).toList with
  | nil =>
      have four := length_toList_hexWord address
      rw [written] at four
      cases four
  | cons first rest =>
      exact ⟨first, rest, rfl⟩

/-- In small letters a written address is nothing but digits. -/
theorem areDigits_hexWord (address : UInt16) :
    AreDigits 16 ((hexWord address).toList.map Char.toLower) where
  nonempty := by
    obtain ⟨first, rest, written⟩ := exists_hexWord address
    rw [written]
    exact List.cons_ne_nil _ _
  areDigits := by
    rw [List.forall_mem_map]
    exact forall_mem_hexWord (by decide) address

theorem isNumberText_hexWord (address : UInt16) : IsNumberText (hexWord address).toList := by
  obtain ⟨first, rest, written⟩ := exists_hexWord address
  have ofWord : ∀ c ∈ (hexWord address).toList, isWordChar c :=
    forall_mem_hexWord (by decide) address
  rw [written] at ofWord ⊢
  exact .plain ofWord

theorem numeralChars?_hexWord (address : UInt16) :
    numeralChars? (hexWord address).toList = some (Int64.ofInt address.toNat) := by
  have small := address.toNat_lt
  have areDigits := areDigits_hexWord address
  have unmarked :
      splitNotation ((hexWord address).toList.map Char.toLower) =
        (16, (hexWord address).toList.map Char.toLower) :=
    splitNotation_mark .bare areDigits
  have value :
      digitsValue? 16 ((hexWord address).toList.map Char.toLower) = some address.toNat := by
    rw [toList_hexWord, digitsValue?_fixedHexDigits]
    exact congrArg some (Nat.mod_eq_of_lt small)
  have inRange : int64? address.toNat = some (Int64.ofInt address.toNat) :=
    if_pos (by omega)
  rw [numeralChars?, unmarked]
  simp only
  rw [areDigits.signed?_eq (by decide), value, Option.bind_some, inRange]

end Text

/-! ## Names of registers and flags -/

/-- A name of four characters is no register and no flag. -/
theorem Monitor.registerValue?_eq_none
    {name : String}
    (long : name.length = 4)
    (cpu : Cpu) :
    registerValue? cpu name = none := by
  have capitals : name.toUpper.length = 4 := String.length_map.trans long
  have noRegister : RegisterName.parse? name = none := by
    refine List.find?_eq_none.mpr fun register _ same => ?_
    rw [← eq_of_beq same] at capitals
    revert capitals
    cases register <;> decide
  have noFlag : FlagName.parse? name = none := by
    refine List.find?_eq_none.mpr fun flag _ same => ?_
    rw [← eq_of_beq same] at capitals
    revert capitals
    cases flag <;> decide
  rw [registerValue?, noRegister, noFlag]
  rfl

namespace Expr

open Text (hexWord)

/-! ## Reading an address -/

/-- A written address has the value it was written for, unless its name has another meaning. -/
theorem evaluate_hexWord
    {env : Env}
    {address : UInt16}
    (noVariable : env.variableNamed? (hexWord address) = none)
    (noRegister : env.registerNamed? (hexWord address) = none)
    (noSymbol : env.symbolNamed? (hexWord address) = none) :
    evaluate env (hexWord address) = .ok (Int64.ofInt address.toNat) := by
  have unused : env.IsUnused (hexWord address) := ⟨noVariable, noRegister, noSymbol⟩
  have shaped := Text.isNumberText_hexWord address
  have numeral := Text.numeralChars?_hexWord address
  by_cases starts : Text.startsNumber (hexWord address).toList
  · rw [evaluate_of_isNumberText env shaped starts, literal, numeral]
    rfl
  · rw [evaluate_of_isName env (shaped.isName starts), unused.resolve_eq, Text.numeral?, numeral]

end Expr

theorem ofInt_natCast (value : Nat) : UInt16.ofInt value = UInt16.ofNat value := by
  have reduced : ((value : Int) % 2 ^ 16).toNat = value % 2 ^ 16 := by
    omega
  rw [UInt16.ofInt, reduced, UInt16.ofNat_mod_size]

/-- A written address is the address, unless a variable or a symbol is called so. -/
theorem Monitor.addressOf_hexWord
    {monitor : Monitor}
    {address : UInt16}
    (noVariable : monitor.bindings.find? (Text.hexWord address) = none)
    (noSymbol : monitor.symbols.addressNamed? (Text.hexWord address) = none)
    (machine : Machine) :
    monitor.addressOf machine (Text.hexWord address) = .ok address := by
  have small := address.toNat_lt
  have noRegister : registerValue? machine.cpu (Text.hexWord address) = none :=
    registerValue?_eq_none (Text.length_toList_hexWord address) machine.cpu
  have evaluated :
      monitor.evaluate machine (Text.hexWord address) = .ok (Int64.ofInt address.toNat) := by
    rw [evaluate, Expr.evaluate_hexWord noVariable noRegister]
    simp [env, noSymbol]
  have value : (Int64.ofInt address.toNat).toInt = address.toNat :=
    Int64.toInt_ofInt_of_le (by omega) (by omega)
  have inRange :
      -0x8000 ≤ Int64.ofInt address.toNat ∧ Int64.ofInt address.toNat ≤ 0xFFFF := by
    rw [Int64.le_iff_toInt_le, Int64.le_iff_toInt_le, value]
    constructor
    · exact Int.le_trans (by decide) (Int.natCast_nonneg _)
    · exact Int.ofNat_le.mpr (Nat.le_of_lt_succ small)
  rw [addressOf, noSymbol, evaluated]
  simp only [if_pos inRange]
  rw [Expr.toAddress_eq, value, ofInt_natCast, UInt16.ofNat_toNat]

end Monitor8080
