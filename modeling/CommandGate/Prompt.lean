import CommandGate.Capability
import CommandGate.Json.Writer
/-!
The prompt that asks the oracle for one command: the user's text, the capabilities in indented form,
and fixed rules with the formats of an answer and examples. The same text and capabilities give the
same prompt.
-/
namespace CommandGate.Prompt

def toolFormat : String :=
  "\x7b\n" ++
    "  \"action\": \"tool_action_name\",\n" ++
    "  \"parameters\": \x7b\n" ++
    "    \"param1\": \"value1\",\n" ++
    "    \"param2\": \"value2\"\n" ++
    "  \x7d\n" ++
    "\x7d"

def chainFormat : String :=
  "\x7b\n" ++
    "  \"action\": \"chain\",\n" ++
    "  \"tasks\": [\n" ++
    "    \x7b\"action\": \"first_action\", \"parameters\": \x7b\x7d\x7d,\n" ++
    "    \x7b\"action\": \"second_action\", \"parameters\": \x7b\x7d\x7d\n" ++
    "  ]\n" ++
    "\x7d"

def textFormat : String :=
  "\x7b\n" ++
    "  \"status\": \"text_response\",\n" ++
    "  \"message\": \"Your text response here.\"\n" ++
    "\x7d"

def examples : String :=
  "- User: \"Shut down my computer\" -> \x7b\"action\": \"shutdown_pc\", \"parameters\": " ++
    "\x7b\"confirm\": false\x7d\x7d\n" ++
    "- User: \"Shut down the computer now\" -> \x7b\"action\": \"shutdown_pc\", \"parameters\": " ++
    "\x7b\"confirm\": true\x7d\x7d\n" ++
    "- User: \"Restart the PC without asking\" -> \x7b\"action\": \"restart_pc\", \"parameters\": " ++
    "\x7b\"confirm\": true\x7d\x7d\n" ++
    "- User: \"Send an email to john@example.com with subject meeting and body hello john\" " ++
    "-> \x7b\"action\": \"send_email\", \"parameters\": \x7b\"to\": \"john@example.com\", " ++
    "\"subject\": \"meeting\", \"body\": \"hello john\"\x7d\x7d\n" ++
    "- User: \"Email ana@example.com saying I'm late, then shut down the PC\" -> \x7b\"action\": " ++
    "\"chain\", \"tasks\": [\x7b\"action\": \"send_email\", \"parameters\": \x7b\"to\": " ++
    "\"ana@example.com\", \"subject\": \"Running late\", \"body\": \"I'm late\"\x7d\x7d, " ++
    "\x7b\"action\": \"shutdown_pc\", \"parameters\": \x7b\"confirm\": false\x7d\x7d]\x7d\n" ++
    "- User: \"What's the weather forecast?\" -> \x7b\"status\": \"text_response\", \"message\": " ++
    "\"I can't check the weather forecast right now.\"\x7d"

def rules : String :=
  "\n\nGenerate ONLY a JSON object representing the tool action to perform, " ++
    "or a \"text_response\" if no tool is applicable.\n\n" ++
    "JSON Format for Tool Action:\n" ++ toolFormat ++
    "\n\nJSON Format for several actions in sequence:\n" ++ chainFormat ++
    "\n\nJSON Format for Text Response:\n" ++ textFormat ++
    "\n\nIf the user asks for a dangerous action such as shutting down or restarting the PC, " ++
    "set the 'confirm' parameter to true only if they explicitly say \"now\", " ++
    "\"without asking\", or similar. Otherwise set it to false so confirmation is requested.\n\n" ++
    "Examples:\n" ++ examples ++ "\n"

def userHeading : String := "USER REQUEST: "

def capabilityHeading : String := "AVAILABLE TOOLS AND THEIR ACTIONS: "

def capabilityText (capabilities : List Capability) : String :=
  (Json.array (capabilities.map Capability.toJson)).indented

def build (userText : String) (capabilities : List Capability) : String :=
  userHeading ++ userText ++ "\n" ++ capabilityHeading ++ capabilityText capabilities ++ rules

end CommandGate.Prompt
