import PinBudget.Proofs.Source.Argument
import PinBudget.Proofs.Usage.Call

/-!
Constructor calls are read back as they were written: the kind, the variable, and the constants with
and without a name, however the call is laid out.
-/
namespace PinBudget.Usage

open Source

/-- A constructor call that is written down with constants as its arguments: first those without a
name, then those with a name, and no name twice. -/
structure ConstantCall where
  lead : Spaces
  holder : Option Variable
  kind : Kind
  positional : List (Gap × Constant)
  named : List (Gap × Identifier × Constant)
  spacing : Spaces
  closing : Gap
  ending : LineEnd
  distinct : (named.map fun argument => argument.2.1.name).Nodup
  shallow : ∀ constant ∈ positional.map Prod.snd ++ named.map fun argument => argument.2.2,
    constant.depth < nestingLimit

namespace ConstantCall

def call (written : ConstantCall) : Call where
  lead := written.lead
  holder := written.holder
  kind := written.kind
  arguments :=
    (written.positional.map fun (gap, constant) => (gap, constant.written written.spacing)) ++
      written.named.map fun (gap, key, constant) =>
        (gap, namedText key (constant.written written.spacing))
  closing := written.closing
  ending := written.ending
  closed := by
    simp only [List.mem_append, List.mem_map]
    rintro argument (⟨source, -, rfl⟩ | ⟨source, -, rfl⟩)
    · exact source.2.piece_written _
    · exact piece_namedText source.2.1 (source.2.2.piece_written _)

variable (written : ConstantCall)

theorem read_arguments (bindings : Bindings) :
    (written.call.arguments.map Prod.snd).foldlM (Arguments.add bindings) {} =
      .ok { positional := written.positional.map fun (_, constant) => constant.value
            named := written.named.map fun (_, key, constant) => (key.name, constant.value) } := by
  have texts : written.call.arguments.map Prod.snd =
      (written.positional.map Prod.snd).map (Constant.written written.spacing) ++
        (written.named.map Prod.snd).map fun entry =>
          namedText entry.1 (entry.2.written written.spacing) := by
    simp only [call, List.map_append, List.map_map]
    rfl
  have shallow := List.forall_mem_append.mp written.shallow
  have positional := Arguments.foldlM_written bindings written.spacing shallow.1 {}
  have deep : ∀ entry ∈ written.named.map Prod.snd, entry.2.depth < nestingLimit := by
    intro entry member
    obtain ⟨argument, own, rfl⟩ := List.mem_map.mp member
    exact shallow.2 _ (List.mem_map.mpr ⟨argument, own, rfl⟩)
  have distinct : ((written.named.map Prod.snd).map fun entry => entry.1.name).Nodup := by
    rw [List.map_map]
    exact written.distinct
  have named := Arguments.foldlM_namedText bindings written.spacing deep distinct
    { positional := (written.positional.map Prod.snd).map Constant.value } fun _ _ => rfl
  rw [texts, List.foldlM_append, positional]
  refine named.trans ?_
  simp only [List.map_map, List.nil_append]
  rfl

/-- A call is read back as it was written, on one line or on several: its source has one event, with
the kind, the variable and the values of the constants. -/
theorem extract_text (few : written.call.turns ≤ continuationLimit) (sourceId : String) :
    ∃ extraction, extract (String.ofList written.call.text) sourceId = .ok extraction ∧
      extraction.events =
        [{ kind := written.kind
           sourceId := sourceId
           line := 1
           holder := written.holder.map Variable.name
           positional := written.positional.map fun (_, constant) => constant.value
           named := written.named.map fun (_, key, constant) => (key.name, constant.value)
           raw := String.ofList written.call.statement }] := by
  obtain ⟨extraction, extracted, events⟩ :=
    written.call.extract_read few sourceId (written.read_arguments [])
  refine ⟨extraction, extracted, events.trans ?_⟩
  simp only [Event.ofConstruction, Call.found, call, Option.map_map]
  rfl

private theorem unbroken_remark : ∀ text, some "(console)".toList = some text →
    ∀ c ∈ text, Text.isLineBreak c = false := by
  simp [Text.isLineBreak]

private theorem plain_content : ∀ c ∈ "a, #(GPIO.new".toList,
    c ≠ '"' ∧ c ≠ '\\' ∧ Text.isLineBreak c = false := by
  simp [Text.isLineBreak]

private def turn : Turn := ⟨.bare, .one⟩

private def turnWithRemark : Turn :=
  ⟨⟨.one, some "(console)".toList, unbroken_remark⟩, .one⟩

private theorem isNameStart_b : Text.isNameStart 'b' = true := by decide

/-- A call over five lines with a comment and an empty line among them. -/
private def brokenCall : ConstantCall where
  lead := .none
  holder := some ⟨.last 2, ⟨'b', ['u', 's'], isNameStart_b, List.all_eq_true.mp (by decide)⟩⟩
  kind := .uart
  positional :=
    [(.broken turnWithRemark [],
      .list [.int 1 (by decide +kernel),
        .list [.text "a, #(GPIO.new".toList plain_content], .nil])]
  named :=
    [(.broken turn [turn], ⟨'b', "aud".toList, isNameStart_b, List.all_eq_true.mp (by decide)⟩,
      .int (-9600) (by decide +kernel))]
  spacing := .none
  closing := .broken turn []
  ending := .bare
  distinct := by decide
  shallow := by decide

theorem extract_text_broken :
    ∃ extraction,
      extract
          ("@@bus = UART.new( #(console)\n [1,[\"a, #(GPIO.new\"],nil],\n" ++
            " \n baud: -9600\n )") "main" = .ok extraction ∧
      extraction.events =
        [{ kind := .uart
           sourceId := "main"
           line := 1
           holder := some "@@bus"
           positional := [.list [.int 1, .list [.str "a, #(GPIO.new"], .nil]]
           named := [("baud", .int (-9600))]
           raw := "@@bus = UART.new( [1,[\"a, #(GPIO.new\"],nil],  baud: -9600 )" }] :=
  brokenCall.extract_text (by decide) "main"

end ConstantCall

end PinBudget.Usage
