import Tabletop.Simulation

/-!
# Robots under several commands

`Robot.obeyAll` gives a robot some commands, one after the other, and keeps what it does about each
of them: the response, and the record of a command that is refused.
-/

set_option autoImplicit false

namespace Tabletop

/-- What some commands do: the robot after them, the response to each, and the log. -/
structure Course where
  after : Robot
  responses : List Response
  log : List Log.Record
  deriving Repr

namespace Robot

/-- What a robot does about some commands, one after the other. -/
def obeyAll : Robot → List Command → Course
  | robot, [] => ⟨robot, [], []⟩
  | robot, command :: commands =>
    let (next, response) := robot.obey command
    let later := obeyAll next commands
    ⟨later.after, response :: later.responses,
      (command.record? response).toList ++ later.log⟩

@[simp]
theorem obeyAll_nil (robot : Robot) : robot.obeyAll [] = ⟨robot, [], []⟩ := rfl

theorem obeyAll_cons (robot : Robot) (command : Command) (commands : List Command) :
    robot.obeyAll (command :: commands) =
      let later := (robot.obey command).1.obeyAll commands
      ⟨later.after, (robot.obey command).2 :: later.responses,
        (command.record? (robot.obey command).2).toList ++ later.log⟩ := rfl

theorem after_obeyAll_cons (robot : Robot) (command : Command) (commands : List Command) :
    (robot.obeyAll (command :: commands)).after =
      ((robot.obey command).1.obeyAll commands).after := rfl

end Robot

end Tabletop
