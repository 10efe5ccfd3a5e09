import Monitor8080.Proofs.NameExpressions
namespace Monitor8080

/-!
# Names as addresses

An expression asks for a name in a fixed order: among the variables, the
registers and flags, the symbols, and at last as a number. An address that is
given to a command is looked for among the symbols first and evaluated as an
expression only if it names none. The two readings of a text agree unless a
variable, a register or a flag hides a symbol at some other address.
-/

/-- Only names are found among the symbols. -/
theorem SymbolTable.isName_of_addressNamed?
    {table : SymbolTable}
    {text : String}
    {address : UInt16}
    (found : table.addressNamed? text = some address) :
    Text.isName text := by
  by_contra unnamed
  rw [addressNamed?, if_neg unnamed] at found
  cases found

namespace Monitor

/-! ## Two readings of a text -/

theorem evaluate_eq_ok_iff
    {monitor : Monitor}
    {machine : Machine}
    {text : String}
    {value : Int64} :
    monitor.evaluate machine text = .ok value ↔
      Expr.evaluate (monitor.env machine) text = .ok value := by
  unfold evaluate
  cases Expr.evaluate (monitor.env machine) text <;> simp

/-- The variable, the register or the flag that goes before a symbol of the same name. -/
def shadow? (monitor : Monitor) (machine : Machine) (name : String) : Option Int64 :=
  monitor.bindings.find? name <|> registerValue? machine.cpu name

/-- The order in which an expression asks for a name. -/
theorem meaning?_env
    (monitor : Monitor)
    (machine : Machine)
    (name : String) :
    (monitor.env machine).meaning? name =
      (monitor.shadow? machine name
        <|> (monitor.symbols.addressNamed? name).map (·.toUInt64.toInt64)
        <|> Text.numeral? name) := by
  change
    (monitor.bindings.find? name
      <|> registerValue? machine.cpu name
      <|> (monitor.symbols.addressNamed? name).map (·.toUInt64.toInt64)
      <|> Text.numeral? name) = _
  unfold shadow?
  cases monitor.bindings.find? name <;> rfl

theorem ofInt_address (address : UInt16) :
    UInt16.ofInt address.toUInt64.toInt64.toInt = address := by
  rw [← Expr.toAddress_eq, Expr.toAddress]
  simp

section Readings

variable {monitor : Monitor} {machine : Machine} {text : String} {value : Int64}

/-- A value that fits is the address, unless the text names a symbol. -/
theorem addressOf_eq_getD
    (evaluated : monitor.evaluate machine text = .ok value)
    (fits : -0x8000 ≤ value ∧ value ≤ 0xFFFF) :
    monitor.addressOf machine text =
      .ok ((monitor.symbols.addressNamed? text).getD (UInt16.ofInt value.toInt)) := by
  unfold addressOf
  cases monitor.symbols.addressNamed? text with
  | some address =>
      rfl
  | none =>
      simp only [evaluated, if_pos fits, Expr.toAddress_eq, Option.getD_none]

/-- What is evaluated for the name of a symbol is what hides it, else its address. -/
theorem evaluate_of_addressNamed?
    {address : UInt16}
    (evaluated : monitor.evaluate machine text = .ok value)
    (found : monitor.symbols.addressNamed? text = some address) :
    value = (monitor.shadow? machine text).getD address.toUInt64.toInt64 := by
  have named := SymbolTable.isName_of_addressNamed? found
  rw [evaluate_eq_ok_iff, Expr.evaluate_eq_ok_iff_of_isName named, meaning?_env, found] at evaluated
  cases shadowed : monitor.shadow? machine text <;> simp_all

/--
A text whose value fits is always an address too, and a name has the meaning
that the order of the expressions gives it. The address is the value, reduced
to sixteen bits, if and only if no symbol of that name is hidden by a variable,
a register or a flag of another value.
-/
theorem addressOf_agrees_iff_not_hidden
    (evaluated : monitor.evaluate machine text = .ok value)
    (fits : -0x8000 ≤ value ∧ value ≤ 0xFFFF) :
    (∃ address,
      monitor.addressOf machine text = .ok address ∧
        (address = UInt16.ofInt value.toInt ↔
          ∀ symbol shadow,
            monitor.symbols.addressNamed? text = some symbol →
            monitor.shadow? machine text = some shadow →
              symbol = UInt16.ofInt shadow.toInt)) ∧
      (Text.isName text → (monitor.env machine).meaning? text = some value) := by
  constructor
  · refine ⟨_, addressOf_eq_getD evaluated fits, ?_⟩
    cases found : monitor.symbols.addressNamed? text with
    | none =>
        simp
    | some symbol =>
        rw [evaluate_of_addressNamed? evaluated found]
        cases monitor.shadow? machine text with
        | none =>
            simp [ofInt_address]
        | some shadow =>
            simp
  · intro named
    rwa [evaluate_eq_ok_iff, Expr.evaluate_eq_ok_iff_of_isName named] at evaluated

end Readings

/-- A monitor with a symbol called like the accumulator, and another one. -/
def lettered : Monitor :=
  { Monitor.ofConfig .default with
    symbols :=
      SymbolTable.empty.withModule "M" 0 0x100
        [("A", ⟨some 0x10, none, none⟩), ("START", ⟨some 0x20, none, none⟩)] }

/-- As an expression the name is the accumulator, as an address it is the symbol. -/
theorem accumulator_hides_symbol :
    lettered.evaluate .initial "A" = .ok 0 ∧
      (-0x8000 ≤ (0 : Int64) ∧ (0 : Int64) ≤ 0xFFFF) ∧
      lettered.addressOf .initial "A" = .ok 0x10 ∧
      (0x10 : UInt16) ≠ UInt16.ofInt (0 : Int64).toInt :=
  ⟨evaluate_eq_ok_iff.mpr ((Expr.evaluate_eq_ok_iff_of_isName (by decide)).mpr (by decide +kernel)),
    by decide, rfl, by decide⟩

/-- Nothing hides the other symbol, so both readings are its address. -/
theorem start_means_its_address :
    lettered.evaluate .initial "START" = .ok 0x20 ∧
      lettered.addressOf .initial "START" = .ok 0x20 := by
  have evaluated : lettered.evaluate .initial "START" = .ok 0x20 :=
    evaluate_eq_ok_iff.mpr ((Expr.evaluate_eq_ok_iff_of_isName (by decide)).mpr (by decide +kernel))
  obtain ⟨⟨address, given, agrees⟩, -⟩ := addressOf_agrees_iff_not_hidden evaluated (by decide)
  have same : address = 0x20 := agrees.mpr fun symbol shadow _ hidden => by
    have unhidden : lettered.shadow? .initial "START" = none := by decide +kernel
    cases unhidden.symm.trans hidden
  exact ⟨evaluated, same ▸ given⟩

end Monitor

end Monitor8080
