/-
Module: Q3df.Client.UserCommandsPlugin
Layer: Client
Purpose: The handlers of the plugin that forwards `!` commands to the API server and prints the
  replies a few lines a frame, and the callback of its `ClientCommand` requests.
Imports: Q3df.Client.ProxyWorld
Trusted boundary: human-reviewed transcription of client/Plugins/UserCommandsPlugin.cc; texts that
  fit the 32000 bytes of va
Main exports: getLines, onGameClientCommand, onGameRunFrame, onExecClientCommandFinished
Open obligations: none
-/
import Q3df.Client.ProxyWorld

namespace Q3df.Client

namespace UserCommandsPlugin

/-- The line `getline` is reading, and the lines that follow it. -/
def getLinesFrom (line : CString) : CString → List CString
  | [] => if line = [] then [] else [line]
  | c :: s => if c = '\n' then line :: getLinesFrom [] s else getLinesFrom (line ++ [c]) s

/-- The lines `std::getline` yields until the stream is exhausted. -/
def getLines (message : CString) : List CString := getLinesFrom [] message

example : getLines "a\n\nb".toList = ["a".toList, [], "b".toList] := by decide

/-- `Argv` into a buffer of 255 bytes; an index out of range reads as the empty
string. -/
def argv (w : ProxyWorld) (n : Nat) : CString := (w.argv.getD n []).take 254

/-- `OnGameClientCommand`: whether the command was handled here. -/
def onGameClientCommand (playernum : Slot) (w : ProxyWorld) : Bool × ProxyWorld :=
  let argc := w.argv.length
  let cl := w.users playernum
  let command := argv w 1
  let isLoginCommand :=
    "login".toList.isPrefixOf (argv w 0) || "!login".toList.isPrefixOf command
  let isRsCommand := "!".toList.isPrefixOf command
  if isLoginCommand then
    (true, w.sendServerCommand playernum.val
      "print \"ERROR: !login is no longer supported. please read http://q3df.org/wiki?p=XX\n\"".toList
      .other)
  else if isRsCommand then
    (true, w.submit playernum (.clientCommand
      { identifier := cl.writeIdentifier
        command := command
        args := (List.range' 2 (argc - 2)).map (argv w) }))
  else (false, w)

/-- `OnGameRunFrame`: in three frames of four, print up to five lines to client
0. -/
def onGameRunFrame (w : ProxyWorld) : ProxyWorld :=
  let w : ProxyWorld :=
    if w.counter % 4 ≠ 0 then
      let lines := w.sentTextLinesToClient.take 5
      let printData : CString := lines.flatMap fun line => line.text ++ ['\n']
      let w : ProxyWorld := { w with sentTextLinesToClient := w.sentTextLinesToClient.drop 5 }
      if printData.length > 0 ∧ w.sentTextLinesToClient = [] then
        w.sendServerCommand 0 ("print \"".toList ++ printData ++ "\n\"".toList) (.replyLines lines)
      else if printData.length > 0 ∧ w.sentTextLinesToClient ≠ [] then
        w.sendServerCommand 0 ("print \"".toList ++ printData ++ "\"".toList) (.replyLines lines)
      else w
    else w
  { w with counter := w.counter + 1 }

/-- `OnExecClientCommandFinished`. `owner` is who issued the command, which the
code does not look at. -/
def onExecClientCommandFinished (owner : Slot) (res : ClientCommandResponse) (error : CString)
    (w : ProxyWorld) : ProxyWorld :=
  if error ≠ [] then
    w.sendServerCommand 0 ("print \"^1ERROR:^7 ".toList ++ error ++ "\n\"".toList)
      (.commandError owner error)
  else
    let lines := (getLines res.messageToPrint).map fun text => { owner := owner, text := text : ReplyLine }
    { w with
      sentTextLinesToClient := w.sentTextLinesToClient ++ lines
      replied := w.replied ++ lines }

end UserCommandsPlugin

end Q3df.Client
