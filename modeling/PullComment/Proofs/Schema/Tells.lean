import PullComment.Schema.RaisedError

namespace PullComment.Schema

open PullComment

namespace RaisedError

end RaisedError

end PullComment.Schema
