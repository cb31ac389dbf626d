import ContentPlayer.Script.Engine

namespace ContentPlayer.Script

def executor : Executor Engine := realm.interpreter.executor

end ContentPlayer.Script
