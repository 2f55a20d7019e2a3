import StateNest.Graph.Basic

/-!
# The demo graph

Markup with tags, strings, comments and numbers. An exclamation mark outside
of all these raises an alert, which another one ends.
-/

set_option autoImplicit false

namespace StateNest

def Graph.demo : Graph where
  states :=
    [{ name := "root"
       branches := ["tag", "comment", "number"]
       ignore := { handler := ['\n'] }
       hardset := [('!', "alert")] },
     { name := "tag"
       entry := [.literal '<']
       leave := [.literal '>']
       branches := ["string"]
       ignore := { all := [' '] } },
     { name := "string"
       entry := [.literal '"']
       leave := [.literal '"'] },
     { name := "comment"
       entry := [.literal '/', .literal '*']
       leave := [.literal '*', .literal '/'] },
     { name := "number"
       entry := [.regex "[0-9]"]
       leave := [.regex "[^0-9]"] },
     { name := "alert"
       leave := [.literal '!'] }]

end StateNest
