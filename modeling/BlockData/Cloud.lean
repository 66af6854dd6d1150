/-
**The cloud device.**

Blocks reach the server through a device with named members. A member is called by its wire name,
in which each word after the first starts with a capital; `snakeCase` turns that into the member's
own name. Requests go to a provider, if there is one.
-/

import BlockData.Text.LetterCase
import BlockData.Value.Basic

namespace BlockData

/-- A request to the server. -/
inductive CloudRequest where
  | update (name value : Value)
  | rename (oldName newName : Value)
  | delete (name : Value)

/-- A character of a wire name: a capital becomes an underscore and its small letter. -/
def snakeChar (c : Char) : List Char :=
  if Text.isUpper c then '_' :: Text.lowerChar c else [c]

/-- The member name of a wire name: capitals set off by underscores, none of them in front. -/
def snakeCase (name : List Char) : List Char :=
  (name.flatMap snakeChar).dropWhile fun c => c == '_'

/-- The members of the cloud device. -/
inductive CloudMember where
  | stage
  | provider
  | requestUpdate
  | requestRename
  | requestDelete
  | postData
  | updateVariable
  deriving DecidableEq

namespace CloudMember

/-- Every member. -/
def every : List CloudMember :=
  [.stage, .provider, .requestUpdate, .requestRename, .requestDelete, .postData, .updateVariable]

/-- The name of a member. -/
def name : CloudMember → String
  | stage => "stage"
  | provider => "provider"
  | requestUpdate => "request_update_variable"
  | requestRename => "request_rename_variable"
  | requestDelete => "request_delete_variable"
  | postData => "post_data"
  | updateVariable => "update_cloud_variable"

/-- The member that a wire name reaches. -/
def ofWireName? (wire : String) : Option CloudMember :=
  let name := String.ofList (snakeCase wire.toList)
  every.find? fun member => member.name = name

end CloudMember

end BlockData
