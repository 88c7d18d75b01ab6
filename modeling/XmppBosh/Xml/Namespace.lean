/-!
# Namespaces

The namespaces that sessions and authentications speak in, and those that belong to documents
themselves.
-/

namespace XmppBosh.Xml.Namespace

/-- Bodies of a connection manager. -/
def httpBind : String := "http://jabber.org/protocol/httpbind"

/-- Attributes of XMPP on such bodies. -/
def xbosh : String := "urn:xmpp:xbosh"

def sasl : String := "urn:ietf:params:xml:ns:xmpp-sasl"

def streams : String := "http://etherx.jabber.org/streams"

def xml : String := "http://www.w3.org/XML/1998/namespace"

def xmlns : String := "http://www.w3.org/2000/xmlns/"

end XmppBosh.Xml.Namespace
