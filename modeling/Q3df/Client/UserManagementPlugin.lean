/-
Module: Q3df.Client.UserManagementPlugin
Layer: Client
Purpose: The handlers of the plugin that follows players from connect to disconnect and logs them
  in, and the callback of its `Login` requests.
Imports: Q3df.Client.ProxyWorld
Trusted boundary: human-reviewed transcription of client/Plugins/UserManagementPlugin.cc
Main exports: onClientConnected, onClientDisconnected, onClientUserInfoChanged, onClientBegin,
  loginCallback
Open obligations: none
-/
import Q3df.Client.ProxyWorld

namespace Q3df.Client

namespace UserManagementPlugin

/-- `OnClientUserInfoChanged`: log the player out, or send a `Login` with the
key. -/
def onClientUserInfoChanged (playernum : Slot) (w : ProxyWorld) : ProxyWorld :=
  let w := w.setUser playernum ((w.users playernum).setUserInfoString (w.userinfo playernum))
  let cl := w.users playernum
  let q3dfkey := cl.getUserInfo "q3dfkey".toList
  if q3dfkey = [] ∧ cl.userId ≠ 0 then
    (w.setUser playernum (cl.setUserId 0)).sendServerCommand cl.getPlayernum.val
      "print \"^7[^3Q3df::Info^7] you're currently logged out...\n\"".toList .other
  else if cl.userId = 0 ∨ cl.lastQ3dfkey ≠ q3dfkey then
    w.submit playernum (.login { identifier := cl.writeIdentifier, q3dfkey := q3dfkey })
  else w

/-- `OnClientConnected`: the text the player is turned away with, if any. -/
def onClientConnected (playernum : Slot) (isFirstTime : Bool) (w : ProxyWorld) :
    Option CString × ProxyWorld :=
  if w.rsNoNewClients = 1 then
    (some "Sorry, server in latched for shutdown.".toList, w)
  else
    let w := w.setUser playernum ((w.users playernum).reset.setUniqueId w.randomUuid)
    let w := onClientUserInfoChanged playernum w
    let cl := w.users playernum
    let name := cl.getUserInfo "name".toList
    if isFirstTime then
      let w := w.setUser playernum (cl.setState .clientConnected)
      let w := w.print ("client:".toList ++ intText playernum.val ++ " connecting (".toList ++ name ++
        ")...\n".toList)
      (none, w.submit playernum (.clientConnected
        { identifier := cl.writeIdentifier, userId := 0, userinfostring := cl.userInfo.val }))
    else
      let cl := (cl.setState .clientActive).setUserId (w.loginState playernum)
      let w := w.setUser playernum cl
      (none, w.print ("client:".toList ++ intText playernum.val ++ " restoring (".toList ++ name ++
        ")...\n".toList))

/-- `OnClientDisconnected`. -/
def onClientDisconnected (playernum : Slot) (w : ProxyWorld) : ProxyWorld :=
  let cl := w.users playernum
  let w := w.submit playernum (.clientDisconnected
    { identifier := cl.writeIdentifier, userId := cl.userId, userinfostring := cl.userInfo.val })
  let w := w.setUser playernum cl.reset
  { w with loginState := Function.update w.loginState playernum 0 }

/-- One welcome line, sent unless the cvar is empty. -/
def sendWelcome (playernum : Slot) (welcome : CString) (w : ProxyWorld) : ProxyWorld :=
  if welcome.length > 0 then
    w.sendServerCommand playernum.val ("chat \"[Q3df] ".toList ++ welcome ++ "\"".toList) .other
  else w

/-- `OnClientBegin`. -/
def onClientBegin (playernum : Slot) (w : ProxyWorld) : ProxyWorld :=
  let cl := (w.users playernum).setState .clientActive
  let w := w.setUser playernum cl
  let w := sendWelcome playernum w.rsWelcome1 w
  let w := sendWelcome playernum w.rsWelcome2 w
  let w := sendWelcome playernum w.rsWelcome3 w
  if cl.userId > 0 then
    w.sendServerCommand playernum.val
      ("print \"^7[^3Q3df::Info^7] you're currently logged in with userid ^3".toList ++
        intText cl.userId ++ "^7.\n\"".toList) .other
  else
    w.sendServerCommand playernum.val
      "print \"^7[^3Q3df::Info^7] you're ^1NOT^7 logged in!\n\"".toList .other

/-- The callback of `Login`. Only the success branch compares the session. -/
def loginCallback (res : LoginResponse) (error : CString) (w : ProxyWorld) : ProxyWorld :=
  let playernum := res.identifier.playernum
  if error ≠ [] then
    let w := w.sendServerCommand playernum.val
      ("chat \"^7[^1Q3df::Error^7] ".toList ++ error ++ "\n\"".toList) .other
    let w := w.sendServerCommand playernum.val
      "chat \"^7[^3Q3df::Info^7] you're currently ^1NOT^7 logged in!\n\"".toList .other
    w.setUser playernum ((w.users playernum).setUserId 0)
  else if (w.users playernum).uniqueId = res.identifier.uniqueId then
    let w := w.sendServerCommand playernum.val
      ("chat \"^7[^3Q3df::Info^7] you're currently logged in with userid ".toList ++
        intText res.userId ++ "!\n\"".toList) .other
    w.setUser playernum ((w.users playernum).setUserId res.userId)
  else
    w.print "[Q3df:WARNING] ERROR: client disconnect after login!\n".toList

/-- `OnVmMainShutdown`: keep the ids of the connected players in the cvars. -/
def onVmMainShutdown (w : ProxyWorld) : ProxyWorld :=
  { w with loginState := fun playernum =>
      if (w.users playernum).state ≠ .clientFree then (w.users playernum).userId
      else w.loginState playernum }

end UserManagementPlugin

end Q3df.Client
